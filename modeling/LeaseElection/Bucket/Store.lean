import LeaseElection.Bucket.Client
import LeaseElection.Lock.Store
import LeaseElection.Time.Duration

namespace LeaseElection

/-- A lock store over a line to a bucket. -/
structure BucketStore where
  line : BucketLine
  timeLimit : Duration
  deriving DecidableEq, Repr

namespace BucketStore

/-- The revision that a token stands for: digits, perhaps with a plus sign, below 2^64. -/
def tokenRevision? (token : Token) : Option Nat :=
  let digits := match token.text.toList with
    | '+' :: rest => rest
    | cs => cs
  (Decimal.natural? digits).filter (· < UInt64.size)

def report (s : BucketStore) (what key : String) : Ending α → Except StoreError α
  | some (.ok a) => .ok a
  | some (.error e) =>
    .error (.unavailable ("KV " ++ what ++ " failed for key '" ++ key ++ "': " ++ e.message))
  | none =>
    .error (.timeout ("KV " ++ what ++ " for key '" ++ key ++ "' timed out after "
      ++ s.timeLimit.text))

def read (s : BucketStore) (key : String) :
    Except StoreError (Option (LeaseRecord × Nat)) × BucketStore :=
  let (ending, line) := s.line.get key
  let result := match s.report "read" key ending with
    | .error e => .error e
    | .ok none => .ok none
    | .ok (some entry) =>
      if entry.IsLive then
        (LeaseRecord.decode entry.value).map fun record => some (record, entry.revision)
      else .ok none
  (result, { s with line })

def get (s : BucketStore) (key : RecordKey) : Except StoreError (Versioned Token) × BucketStore :=
  match s.read key.bucketKey with
  | (.ok (some (record, revision)), s) => (.ok ⟨record, .ofRevision revision⟩, s)
  | (.ok none, s) => (.error (.notFound key), s)
  | (.error e, s) => (.error e, s)

def create (s : BucketStore) (key : RecordKey) (record : LeaseRecord) :
    Except StoreError Token × BucketStore :=
  let (ending, line) := s.line.create key.bucketKey record.encode
  let s := { s with line }
  match s.report "create" key.bucketKey ending with
  | .ok revision => (.ok (.ofRevision revision), s)
  | .error e =>
    match s.read key.bucketKey with
    | (.ok (some _), s) => (.error (.alreadyExists key), s)
    | (.ok none, s) => (.error e, s)
    | (.error e, s) => (.error e, s)

def update (s : BucketStore) (key : RecordKey) (record : LeaseRecord) (token : Token) :
    Except StoreError Token × BucketStore :=
  match tokenRevision? token with
  | none => (.error (.conflict key token.text), s)
  | some expected =>
    let (ending, line) := s.line.update key.bucketKey record.encode expected
    let s := { s with line }
    match s.report "update" key.bucketKey ending with
    | .ok revision => (.ok (.ofRevision revision), s)
    | .error e =>
      match s.read key.bucketKey with
      | (.ok none, s) => (.error (.notFound key), s)
      | (.ok (some (_, revision)), s) =>
        (.error (if revision = expected then e else .conflict key token.text), s)
      | (.error e, s) => (.error e, s)

def call (s : BucketStore) (key : RecordKey) : StoreCall Token → StoreAnswer Token × BucketStore
  | .get => let (r, s) := s.get key; (.ofRead r, s)
  | .create record => let (r, s) := s.create key record; (.ofWrite r, s)
  | .update record token => let (r, s) := s.update key record token; (.ofWrite r, s)

def inspect (s : BucketStore) (bucket : String) : String :=
  "NatsLockStore \x7b bucket: " ++ Text.quoted bucket ++ ", request_timeout: " ++ s.timeLimit.text
    ++ ", .. \x7d"

end BucketStore

end LeaseElection
