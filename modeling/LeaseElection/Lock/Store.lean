import LeaseElection.Lease.Codec

/-!
# Calls of a lock store

A lock store reads a record, creates one where there is none, and replaces one whose token is
presented. What a token is made of is the store's affair, so it is a parameter here.
-/
namespace LeaseElection

/-- A record and the token that has to come with its next update. -/
structure Versioned (τ : Type) where
  record : LeaseRecord
  token : τ
  deriving DecidableEq, Repr

/-- What a lock store can be asked for. -/
inductive StoreCall (τ : Type) where
  | get
  | create (record : LeaseRecord)
  | update (record : LeaseRecord) (token : τ)
  deriving DecidableEq, Repr

/-- What a lock store answers: the record that was read, or the token of the one written. -/
inductive StoreAnswer (τ : Type) where
  | found (current : Versioned τ)
  | written (token : τ)
  | failed (error : StoreError)
  deriving DecidableEq, Repr

namespace StoreCall

def name : StoreCall τ → String
  | .get => "get"
  | .create _ => "create"
  | .update _ _ => "update"

end StoreCall

namespace StoreAnswer

def ofRead : Except StoreError (Versioned τ) → StoreAnswer τ
  | .ok current => .found current
  | .error e => .failed e

def ofWrite : Except StoreError τ → StoreAnswer τ
  | .ok token => .written token
  | .error e => .failed e

end StoreAnswer

end LeaseElection
