import LeaseElection.Lock.Store

/-!
# Histories of a lock store

A lock store answers one call after another. Its clones share one state, so a history does not say
which of them a call came through. Calls, their answers and the writes among them are listed latest
first.
-/
namespace LeaseElection

/-- A call about the record under a key. -/
structure KeyedCall where
  key : RecordKey
  call : StoreCall Token
  deriving DecidableEq, Repr

/-- A call and what was answered. -/
structure Exchange extends KeyedCall where
  answer : StoreAnswer Token
  deriving DecidableEq, Repr

/-- A lock store: the state it starts in, and how it serves a call about the record under a key. -/
structure LockStore (σ : Type) where
  first : σ
  serve : σ → RecordKey → StoreCall Token → StoreAnswer Token × σ

namespace LockStore

variable {σ : Type} (store : LockStore σ)

/-- The state after these calls. -/
def after : List KeyedCall → σ
  | [] => store.first
  | asked :: past => (store.serve (after past) asked.key asked.call).2

def answer (past : List KeyedCall) (asked : KeyedCall) : StoreAnswer Token :=
  (store.serve (store.after past) asked.key asked.call).1

def exchanges : List KeyedCall → List Exchange
  | [] => []
  | asked :: past => ⟨asked, store.answer past asked⟩ :: exchanges past

theorem length_exchanges (calls : List KeyedCall) :
    (store.exchanges calls).length = calls.length := by
  induction calls with
  | nil => rfl
  | cons asked past ih => rw [exchanges, List.length_cons, List.length_cons, ih]

end LockStore

/-- The version that a successful call has written. -/
def Exchange.written? (e : Exchange) : Option (Versioned Token) :=
  match e.call, e.answer with
  | .create record, .written token | .update record _, .written token => some ⟨record, token⟩
  | _, _ => none

/-- The token that an answer gives out. -/
def Exchange.token? (e : Exchange) : Option Token :=
  match e.answer with
  | .found current => some current.token
  | .written token => some token
  | .failed _ => none

theorem Exchange.token_of_read {asked : KeyedCall} {result : Except StoreError (Versioned Token)}
    {token : Token} (gives : Exchange.token? ⟨asked, .ofRead result⟩ = some token) :
    ∃ current, result = .ok current ∧ current.token = token := by
  cases result with
  | error e => cases gives
  | ok current =>
      cases gives
      exact ⟨current, rfl, rfl⟩

theorem Exchange.token_of_write {asked : KeyedCall} {result : Except StoreError Token} {token : Token}
    (gives : Exchange.token? ⟨asked, .ofWrite result⟩ = some token) : result = .ok token := by
  cases result with
  | error e => cases gives
  | ok written =>
      cases gives
      rfl

/-- The successful update of a key by somebody who presented this token. -/
def Exchange.Replaces (e : Exchange) (key : RecordKey) (presented : Token) : Prop :=
  e.key = key ∧ ∃ record given, e.call = .update record presented ∧ e.answer = .written given

/-- The versions that were written, each with its key. -/
def writes (history : List Exchange) : List (RecordKey × Versioned Token) :=
  history.filterMap fun e => e.written?.map fun version => (e.key, version)

def lastWrite? (history : List Exchange) (key : RecordKey) : Option (Versioned Token) :=
  (writes history).lookup key

variable {e : Exchange} {earlier : List Exchange}

theorem writes_cons_written {version : Versioned Token} (written : e.written? = some version) :
    writes (e :: earlier) = (e.key, version) :: writes earlier :=
  List.filterMap_cons_some (by rw [written, Option.map_some])

theorem writes_cons_unwritten (unwritten : e.written? = none) :
    writes (e :: earlier) = writes earlier :=
  List.filterMap_cons_none (by rw [unwritten, Option.map_none])

theorem LockStore.length_writes_le {σ : Type} (store : LockStore σ) (calls : List KeyedCall) :
    (writes (store.exchanges calls)).length ≤ calls.length := by
  have fewer := List.length_filterMap_le
    (fun e : Exchange => e.written?.map fun version => (e.key, version)) (store.exchanges calls)
  rw [store.length_exchanges] at fewer
  exact fewer

theorem lastWrite?_cons_written {version : Versioned Token} (written : e.written? = some version)
    (key : RecordKey) : lastWrite? (e :: earlier) key =
      if key = e.key then some version else lastWrite? earlier key := by
  rw [lastWrite?, writes_cons_written written, List.lookup_cons]
  by_cases own : key = e.key
  · simp [own]
  · have unlike : (key == e.key) = false := by simpa using own
    rw [unlike, if_neg own]
    rfl

end LeaseElection
