import LeaseElection.Bucket.Line
import LeaseElection.Lock.Key

namespace LeaseElection

def IsKeyChar (c : Char) : Prop := c.isAlphanum ∨ c = '-' ∨ c = '_' ∨ c = '.'

instance (c : Char) : Decidable (IsKeyChar c) :=
  inferInstanceAs (Decidable (c.isAlphanum ∨ c = '-' ∨ c = '_' ∨ c = '.'))

/-- A part of a key, with an underscore for every character that a key may not hold. -/
def keyPart (cs : List Char) : List Char := cs.map fun c => if IsKeyChar c then c else '_'

def RecordKey.bucketKey (key : RecordKey) : String :=
  String.ofList (keyPart key.nameSpace.toList ++ '/' :: keyPart key.name.toList)

def BucketKeyValid (key : String) : Prop :=
  key ≠ "" ∧ key.toList.head? ≠ some '.' ∧ key.toList.getLast? ≠ some '.'

instance (key : String) : Decidable (BucketKeyValid key) :=
  inferInstanceAs (Decidable (key ≠ "" ∧ key.toList.head? ≠ some '.' ∧
    key.toList.getLast? ≠ some '.'))

/-- Why an operation on a bucket failed. -/
inductive BucketError where
  | invalidKey
  | readRefused (refusal : Refusal)
  | readUnattended
  /-- The key has another revision than the expected one. -/
  | wrongRevision
  | writeRefused (refusal : Refusal)
  | writeUnattended
  | exists
  | notCreated
  deriving DecidableEq, Repr

namespace BucketError

def message : BucketError → String
  | .invalidKey => "key cannot be empty or start/end with \x60.\x60"
  | .readRefused r =>
      "failed getting entry: unable to get message: " ++ Decimal.text r.status ++ " " ++ r.description
  | .readUnattended => "failed getting entry: error getting message"
  | .wrongRevision =>
      "wrong last revision: wrong last sequence: "
        ++ Refusal.text ⟨400, 10071, "wrong last sequence"⟩
  | .writeRefused r => "failed getting entry: publish failed: " ++ r.text
  | .writeUnattended => "failed getting entry: no stream found for given subject"
  | .exists => "key already exists"
  | .notCreated => "other error"

def ofCreation : BucketError → BucketError
  | .wrongRevision => .exists
  | .invalidKey => .invalidKey
  | _ => .notCreated

end BucketError

abbrev Ending (α : Type) := Option (Except BucketError α)

namespace BucketLine

def get (l : BucketLine) (key : String) : Ending (Option BucketEntry) × BucketLine :=
  if ¬ BucketKeyValid key then (some (.error .invalidKey), l)
  else
    match l.read key with
    | (.answer entry, l) => (some (.ok entry), l)
    | (.refused r, l) => (some (.error (.readRefused r)), l)
    | (.unattended, l) => (some (.error .readUnattended), l)
    | (.silence, l) => (none, l)

def update (l : BucketLine) (key value : String) (expected : Nat) : Ending Nat × BucketLine :=
  if ¬ BucketKeyValid key then (some (.error .invalidKey), l)
  else
    match l.write key value expected with
    | (.answer (some revision), l) => (some (.ok revision), l)
    | (.answer none, l) => (some (.error .wrongRevision), l)
    | (.refused r, l) => (some (.error (.writeRefused r)), l)
    | (.unattended, l) => (some (.error .writeUnattended), l)
    | (.silence, l) => (none, l)

/-- Writes where there is no value: where the key was never written, or else, if the entry turns out
to be a deletion, over that. -/
def create (l : BucketLine) (key value : String) : Ending Nat × BucketLine :=
  let again (ending : Ending Nat) : Ending Nat :=
    ending.map fun result => result.mapError BucketError.ofCreation
  match l.update key value 0 with
  | (some (.error first), l) =>
    match l.get key with
    | (some (.ok (some entry)), l) =>
      if entry.IsLive then (some (.error .exists), l)
      else
        let (ending, l) := l.update key value entry.revision
        (again ending, l)
    | (some (.ok none), l) => (again (some (.error first)), l)
    | (some (.error e), l) => (again (some (.error e)), l)
    | (none, l) => (none, l)
  | done => done

end BucketLine

end LeaseElection
