import LeaseElection.Bucket.Open

namespace LeaseElection

namespace BucketLine

def down (l : BucketLine) : BucketLine :=
  let silence : List RequestFault := List.replicate 4 ⟨[], RequestFate.silent⟩
  { l with reads := silence, writes := silence }

/-- How many of the requests made since an earlier state of the line were never answered. -/
def unansweredSince (earlier later : BucketLine) : Nat :=
  let silent (queue rest : List RequestFault) : Nat :=
    (queue.take (queue.length - rest.length)).countP fun f => f.fate = .silent ∨ f.fate = .lost
  silent earlier.reads later.reads + silent earlier.writes later.writes

end BucketLine

namespace BucketHost

def afterLine (h : BucketHost) (line : BucketLine) : BucketHost :=
  { h with
    bucket := h.bucket.map fun b => { b with contents := line.bucket }
    reads := line.reads
    writes := line.writes }

/-- The broker when a client has made a change. Where there is no bucket yet, the key is kept until
there is one. -/
def change (h : BucketHost) (c : BucketChange) : BucketHost :=
  { h with bucket := some (match h.bucket with
      | some b => { b with contents := b.contents.change c }
      | none => ⟨0, Bucket.empty.change c⟩) }

def roundTrip : Duration := .ofMillis 1

def call (h : BucketHost) (timeLimit : Duration) (up : Bool) (key : RecordKey)
    (call : StoreCall Token) : (StoreAnswer Token × Nat) × BucketHost :=
  let line := if up then h.line else h.line.down
  let (answer, after) := (BucketStore.mk line timeLimit).call key call
  let time := roundTrip.nanoseconds + line.unansweredSince after.line * timeLimit.nanoseconds
  ((answer, time), if up then h.afterLine after.line else h)

end BucketHost

end LeaseElection
