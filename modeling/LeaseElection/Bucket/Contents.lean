/-!
# The contents of a bucket

A bucket keeps the latest entry of each of its keys. Every change, also a deletion, draws the next
number of one counter for the whole bucket. A conditional write is applied only if the key's latest
revision is the expected one, where a key that was never written has revision zero.
-/
namespace LeaseElection

/-- What the latest change of a key did. -/
inductive BucketOperation where
  | put
  | delete
  | purge
  deriving DecidableEq, Repr

def BucketOperation.text : BucketOperation → String
  | .put => "PUT"
  | .delete => "DEL"
  | .purge => "PURGE"

structure BucketEntry where
  revision : Nat
  operation : BucketOperation
  value : String
  deriving DecidableEq, Repr

def BucketEntry.IsLive (e : BucketEntry) : Prop := e.operation = .put

instance (e : BucketEntry) : Decidable e.IsLive := inferInstanceAs (Decidable (e.operation = .put))

/-- A change that any client may make, whatever the key's revision. -/
inductive BucketChange where
  | put (key value : String)
  | delete (key : String)
  | purge (key : String)
  deriving DecidableEq, Repr

/-- The entries of a bucket by key, and the last revision drawn. -/
structure Bucket where
  entries : List (String × BucketEntry)
  lastRevision : Nat
  deriving DecidableEq, Repr

namespace Bucket

def empty : Bucket := ⟨[], 0⟩

def entry? (b : Bucket) (key : String) : Option BucketEntry := b.entries.lookup key

def revision (b : Bucket) (key : String) : Nat :=
  match b.entry? key with
  | some e => e.revision
  | none => 0

def record (b : Bucket) (key : String) (operation : BucketOperation) (value : String) : Bucket :=
  let revision := b.lastRevision + 1
  ⟨(key, ⟨revision, operation, value⟩) :: b.entries.filter (fun e => e.1 ≠ key), revision⟩

def change (b : Bucket) : BucketChange → Bucket
  | .put key value => b.record key .put value
  | .delete key => b.record key .delete ""
  | .purge key => b.record key .purge ""

def write? (b : Bucket) (key value : String) (expected : Nat) : Option Bucket :=
  if b.revision key = expected then some (b.record key .put value) else none

end Bucket

end LeaseElection
