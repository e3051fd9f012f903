import LeaseElection.Bucket.Contents
import LeaseElection.Text.Decimal

/-!
# The line to a bucket

Requests about a bucket and what may befall them. Before a request arrives other clients may make
changes; then it is answered, refused, or never answered, and in that last case a write may have
been applied or not. A request that is not applied when it arrives is not applied later.
-/
namespace LeaseElection

/-- What the broker says when it refuses a request. -/
structure Refusal where
  status : Nat
  /-- The number of the error among the broker's errors. -/
  code : Nat
  description : String
  deriving DecidableEq, Repr

def Refusal.text (r : Refusal) : String :=
  Decimal.text r.status ++ " (code " ++ r.description ++ ", error code " ++ Decimal.text r.code ++ ")"

/-- What becomes of a request that arrives. -/
inductive RequestFate where
  | answered
  /-- It has no effect and no answer. -/
  | silent
  /-- It has its effect, but the answer is lost. -/
  | lost
  /-- It has no effect and is answered by an error. -/
  | refused (refusal : Refusal)
  /-- Nobody is there to take it. -/
  | unattended
  deriving DecidableEq, Repr

structure RequestFault where
  before : List BucketChange
  fate : RequestFate
  deriving DecidableEq, Repr

def RequestFault.none : RequestFault := ⟨[], .answered⟩

inductive Reply (α : Type) where
  | answer (value : α)
  | refused (refusal : Refusal)
  | unattended
  | silence
  deriving DecidableEq, Repr

/-- A bucket, and what awaits the next reads and writes. -/
structure BucketLine where
  bucket : Bucket
  reads : List RequestFault
  writes : List RequestFault
  deriving DecidableEq, Repr

namespace BucketLine

def clear (bucket : Bucket) : BucketLine := ⟨bucket, [], []⟩

def precede (bucket : Bucket) (fault : RequestFault) : Bucket :=
  fault.before.foldl Bucket.change bucket

def read (l : BucketLine) (key : String) : Reply (Option BucketEntry) × BucketLine :=
  let fault := l.reads.headD .none
  let bucket := precede l.bucket fault
  let l := { l with bucket, reads := l.reads.tail }
  match fault.fate with
  | .answered => (.answer (bucket.entry? key), l)
  | .refused refusal => (.refused refusal, l)
  | .unattended => (.unattended, l)
  | .silent | .lost => (.silence, l)

/-- Writes a value if the key has the expected revision. The answer is the new revision, or nothing
if the key has another one. -/
def write (l : BucketLine) (key value : String) (expected : Nat) :
    Reply (Option Nat) × BucketLine :=
  let fault := l.writes.headD .none
  let bucket := precede l.bucket fault
  let l := { l with bucket, writes := l.writes.tail }
  let written := { l with bucket := (bucket.write? key value expected).getD bucket }
  match fault.fate with
  | .answered =>
    (.answer ((bucket.write? key value expected).map Bucket.lastRevision), written)
  | .lost => (.silence, written)
  | .silent => (.silence, l)
  | .refused refusal => (.refused refusal, l)
  | .unattended => (.unattended, l)

end BucketLine

end LeaseElection
