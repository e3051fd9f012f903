import LeaseElection.Lock.Memory

namespace LeaseElection.Rehearsal

/-- How an outsider changes a record that is there. -/
inductive IntrusionKind where
  | takeOver
  | renew
  | release
  deriving DecidableEq, Repr

/-- What an outsider writes into the lock record. -/
inductive Intrusion where
  /-- A change by this participant; where there is no record, it claims it. -/
  | change (kind : IntrusionKind) (identity : String) (lease : Duration)
  | text (json : String)
  deriving DecidableEq, Repr

def Intrusion.record (i : Intrusion) (current : Option LeaseRecord) (now : Instant) :
    Except StoreError LeaseRecord :=
  match i, current with
  | .text json, _ => LeaseRecord.decode json
  | .change _ identity lease, none => .ok (.claimed identity lease now)
  | .change .takeOver identity lease, some r => .ok (r.takenOverBy identity lease now)
  | .change .renew _ lease, some r => .ok (r.renewed lease now)
  | .change .release .., some r => .ok (r.released now)

/-- What befalls a store call, in the order of the fields. -/
structure Fault where
  delay : Nat
  cancels : Bool
  hangs : Bool
  intrusion : Option Intrusion
  /-- The error that is answered in place of the store's answer. -/
  error : Option StoreError
  /-- Whether the call reaches the store although an error is answered. -/
  applied : Bool
  /-- The answer waits for this long, in nanoseconds. -/
  late : Nat
  deriving DecidableEq, Repr

namespace Fault

def none : Fault := ⟨0, false, false, .none, .none, false, 0⟩

def Reaches (f : Fault) : Prop := f.error = .none ∨ f.applied = true

instance (f : Fault) : Decidable f.Reaches :=
  inferInstanceAs (Decidable (f.error = .none ∨ f.applied = true))

end Fault

/-- The faults that await the calls of one participant, by kind of call. -/
structure FaultQueues where
  reads : List Fault
  creates : List Fault
  updates : List Fault
  deriving DecidableEq, Repr

namespace FaultQueues

def empty : FaultQueues := ⟨[], [], []⟩

def take (q : FaultQueues) (call : StoreCall τ) : Fault × FaultQueues :=
  match call, q with
  | .get, ⟨f :: rest, creates, updates⟩ => (f, ⟨rest, creates, updates⟩)
  | .create _, ⟨reads, f :: rest, updates⟩ => (f, ⟨reads, rest, updates⟩)
  | .update .., ⟨reads, creates, f :: rest⟩ => (f, ⟨reads, creates, rest⟩)
  | _, _ => (.none, q)

def append (q more : FaultQueues) : FaultQueues :=
  ⟨q.reads ++ more.reads, q.creates ++ more.creates, q.updates ++ more.updates⟩

end FaultQueues

end LeaseElection.Rehearsal
