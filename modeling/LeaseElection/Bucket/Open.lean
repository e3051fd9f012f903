import LeaseElection.Broker.Client
import LeaseElection.Bucket.Store

namespace LeaseElection

structure KeptBucket where
  /-- How many revisions of a key are kept; none can be used below one. -/
  history : Int
  contents : Bucket
  deriving DecidableEq, Repr

/-- A broker's bucket, if there is one, and what awaits the next requests about it. -/
structure BucketHost where
  bucket : Option KeptBucket
  lookups : List RequestFault
  creations : List RequestFault
  reads : List RequestFault
  writes : List RequestFault
  deriving DecidableEq, Repr

structure OpenReport where
  result : Except BrokerError Unit
  retries : Nat
  unanswered : Nat

namespace BucketHost

def precede (h : BucketHost) (fault : RequestFault) : BucketHost :=
  { h with bucket := h.bucket.map fun b =>
      { b with contents := BucketLine.precede b.contents fault } }

def lookup (h : BucketHost) : Reply (Option Int) × BucketHost :=
  let fault := h.lookups.headD .none
  let h := { h.precede fault with lookups := h.lookups.tail }
  match fault.fate with
  | .answered => (.answer (h.bucket.map KeptBucket.history), h)
  | .refused refusal => (.refused refusal, h)
  | .unattended => (.unattended, h)
  | .silent | .lost => (.silence, h)

/-- Asks for the bucket to be made, or for one that is there to keep this many revisions. -/
def make (h : BucketHost) (history : Int) : Reply Unit × BucketHost :=
  let fault := h.creations.headD .none
  let h := { h.precede fault with creations := h.creations.tail }
  let contents := match h.bucket with
    | some b => b.contents
    | none => Bucket.empty
  let made := { h with bucket := some ⟨history, contents⟩ }
  match fault.fate with
  | .answered => (.answer (), made)
  | .lost => (.silence, made)
  | .silent => (.silence, h)
  | .refused refusal => (.refused refusal, h)
  | .unattended => (.unattended, h)

def lookupFault? : Reply (Option Int) → Option String
  | .answer (some history) => if history < 1 then some "invalid Key Value Store name" else none
  | .answer none => some (found ("jetstream error: " ++ Refusal.text ⟨404, 10059, "stream not found"⟩))
  | .refused refusal => some (found ("jetstream error: " ++ refusal.text))
  | .unattended => some (found "request error: requested JetStream resource does not exist")
  | .silence =>
    some (found "request error: timed out: request timed out: deadline has elapsed")
where
  found (reason : String) : String := "failed to get the bucket: " ++ reason

def makeFault? : Reply Unit → Option String
  | .answer _ => none
  | .refused refusal => some ("bucket creation failed: jetstream error: " ++ refusal.text)
  | .unattended => some "bucket creation failed: jetstream unavailable"
  | .silence => some "timed out: jetstream request timed out"

def unanswered : Reply α → Nat
  | .silence => 1
  | _ => 0

def findOrMake (h : BucketHost) (name : String) (history : Int) :
    (Except BrokerError Unit × Nat) × BucketHost :=
  let (looked, h) := h.lookup
  match lookupFault? looked with
  | none => ((.ok (), 0), h)
  | some notFound =>
    let (made, h) := h.make history
    let count := unanswered looked + unanswered made
    match makeFault? made with
    | none => ((.ok (), count), h)
    | some notMade =>
      let reason := "failed to create JetStream KV bucket '" ++ name ++ "': " ++ notMade
        ++ " (get error: " ++ notFound ++ ")"
      ((.error (.transport reason), count), h)

/-- Tries once to open a client's bucket; the number counts requests never answered. -/
def tryOpen (h : BucketHost) (client : BrokerClient) : (Except BrokerError Unit × Nat) × BucketHost :=
  match client.context with
  | .ok _ => h.findOrMake client.config.bucket client.config.history
  | .error e => ((.error e, 0), h)

/-- Opens a client's bucket, with this many more tries after a failure that may pass. -/
def openWith (h : BucketHost) (client : BrokerClient) (tries : Nat) : OpenReport × BucketHost :=
  match tries, h.tryOpen client with
  | left + 1, ((.error e, count), h) =>
    if e.IsRetryable then
      let (report, h) := h.openWith client left
      (⟨report.result, report.retries + 1, report.unanswered + count⟩, h)
    else (⟨.error e, 0, count⟩, h)
  | _, ((result, count), h) => (⟨result, 0, count⟩, h)

def maxRetries : Nat := 3

def retryPause : Duration := .ofMillis 500

def answerTimeout : Duration := .ofSeconds 10

def openBucket (h : BucketHost) (client : BrokerClient) : OpenReport × BucketHost :=
  h.openWith client maxRetries

def line (h : BucketHost) : BucketLine :=
  ⟨match h.bucket with | some b => b.contents | none => .empty, h.reads, h.writes⟩

end BucketHost

namespace OpenReport

def logs (r : OpenReport) : List LogLine :=
  List.replicate r.retries (.warn "failed to open lock record bucket, retrying")

def elapsed (r : OpenReport) : Duration :=
  ⟨r.retries * BucketHost.retryPause.nanoseconds
    + r.unanswered * BucketHost.answerTimeout.nanoseconds⟩

end OpenReport

end LeaseElection
