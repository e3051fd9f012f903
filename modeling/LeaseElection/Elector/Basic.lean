import LeaseElection.Election.Config
import LeaseElection.Election.Status
import LeaseElection.Lock.Store

/-!
# Electors

The state of one participant's control loop: what it publishes, what it last saw of the record, and
at which stage of its run it is. Local time is counted in nanoseconds of a clock that only goes
forward; it is unrelated to the wall clock, which stamps records. It has no last instant here: every
deadline is taken to be an instant of that clock, which a duration of nearly 2^63 seconds would pass.
-/
namespace LeaseElection

/-- A claim of this participant that the store acknowledged. -/
structure Held (τ : Type) where
  record : LeaseRecord
  token : τ
  /-- Local time at which the last acknowledged write of the claim was begun. -/
  stamped : Nat
  deriving DecidableEq, Repr

/-- The version of the record that was read last, and when it was first read. -/
structure Sighting (τ : Type) where
  token : τ
  since : Nat
  deriving DecidableEq, Repr

/-- What became of the workload that a leader started. -/
inductive WorkState where
  | absent
  | running
  | ended (panicked : Bool)
  deriving DecidableEq, Repr

/-- Why a leader stops leading. -/
inductive StopReason where
  | cancelled
  /-- Leadership is lost, perhaps to a participant that was found to hold the lease. -/
  | lost (successor : Option String)
  deriving DecidableEq, Repr

/-- Where a run is, with all that the next step needs. -/
inductive Stage (τ : Type) where
  /-- There is no run. -/
  | idle
  /-- The record is being read, in order to claim it. -/
  | reading (deadline : Nat)
  /-- A claim is being written. -/
  | claiming (deadline : Nat) (record : LeaseRecord) (stamped : Nat)
  /-- The next attempt to claim is awaited. -/
  | waiting (next : Nat)
  /-- The lease is held, and the next renewal is awaited. -/
  | holding (held : Held τ) (next : Nat)
  /-- A renewal is being written. -/
  | renewing (held : Held τ) (record : LeaseRecord) (started : Nat)
  /-- The record is being read again, since the token turned out to be stale. -/
  | rereading (held : Held τ)
  /-- The end of the workload is awaited. -/
  | stopping (held : Held τ) (reason : StopReason)
  /-- The lease is being given up. -/
  | releasing (deadline : Nat)
  deriving DecidableEq, Repr

namespace Stage

def Calls : Stage τ → Prop
  | .reading _ | .claiming .. | .renewing .. | .rereading _ | .releasing _ => True
  | .idle | .waiting _ | .holding .. | .stopping .. => False

instance (s : Stage τ) : Decidable s.Calls := by cases s <;> unfold Calls <;> infer_instance

def HeedsCancel : Stage τ → Prop
  | .reading _ | .claiming .. | .waiting _ | .holding .. | .renewing .. | .rereading _ => True
  | .idle | .stopping .. | .releasing _ => False

instance (s : Stage τ) : Decidable s.HeedsCancel := by
  cases s <;> unfold HeedsCancel <;> infer_instance

end Stage

/-- A participant's control loop. -/
structure Elector (τ : Type) where
  status : ElectionStatus
  sighting : Option (Sighting τ)
  /-- The leader that was reported last in this run. -/
  lastReported : Option String
  work : WorkState
  stage : Stage τ
  deriving DecidableEq, Repr

namespace Elector

def new (identity : String) : Elector τ := ⟨.initial identity, none, none, .absent, .idle⟩

/-- The local time until which a claim may be acted upon without another renewal. -/
def renewBy (c : ElectionConfig) (held : Held τ) : Nat := held.stamped + c.renewDeadline.nanoseconds

/-- The local time of the participant's timer, if one is set. -/
def alarm? (c : ElectionConfig) (e : Elector τ) : Option Nat :=
  match e.stage with
  | .idle | .stopping .. => none
  | .reading deadline | .claiming deadline .. | .releasing deadline => some deadline
  | .waiting next | .holding _ next => some next
  | .renewing held .. | .rereading held => some (renewBy c held)

def IsRunning (e : Elector τ) : Prop := e.stage ≠ .idle

instance (e : Elector τ) [DecidableEq τ] : Decidable e.IsRunning :=
  inferInstanceAs (Decidable (e.stage ≠ .idle))

end Elector

end LeaseElection
