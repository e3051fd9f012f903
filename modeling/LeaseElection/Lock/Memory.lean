import LeaseElection.Lock.Store

namespace LeaseElection

/-- A record and the revision of its last write. -/
structure MemoryEntry where
  record : LeaseRecord
  revision : Nat
  deriving DecidableEq, Repr

/-- Lock records by key. -/
structure MemoryStore where
  entries : List (RecordKey × MemoryEntry)
  lastRevision : Nat
  deriving DecidableEq, Repr

namespace MemoryStore

def empty : MemoryStore := ⟨[], 0⟩

def entry? (s : MemoryStore) (key : RecordKey) : Option MemoryEntry := s.entries.lookup key

def put (s : MemoryStore) (key : RecordKey) (record : LeaseRecord) : MemoryStore :=
  let revision := s.lastRevision + 1
  ⟨(key, ⟨record, revision⟩) :: s.entries.filter (fun e => e.1 ≠ key), revision⟩

def get (s : MemoryStore) (key : RecordKey) : Except StoreError (Versioned Token) :=
  match s.entry? key with
  | some e => .ok ⟨e.record, .ofRevision e.revision⟩
  | none => .error (.notFound key)

def create (s : MemoryStore) (key : RecordKey) (record : LeaseRecord) :
    Except StoreError Token × MemoryStore :=
  match s.entry? key with
  | some _ => (.error (.alreadyExists key), s)
  | none => (.ok (.ofRevision (s.lastRevision + 1)), s.put key record)

def update (s : MemoryStore) (key : RecordKey) (record : LeaseRecord) (token : Token) :
    Except StoreError Token × MemoryStore :=
  match s.entry? key with
  | none => (.error (.notFound key), s)
  | some e =>
    if Token.ofRevision e.revision = token then
      (.ok (.ofRevision (s.lastRevision + 1)), s.put key record)
    else (.error (.conflict key token.text), s)

def call (s : MemoryStore) (key : RecordKey) : StoreCall Token → StoreAnswer Token × MemoryStore
  | .get => (.ofRead (s.get key), s)
  | .create record => let (r, s) := s.create key record; (.ofWrite r, s)
  | .update record token => let (r, s) := s.update key record token; (.ofWrite r, s)

end MemoryStore

end LeaseElection
