import LeaseElection.Text.Basic

/-!
# Tasks

A task that the process started: when it ends, and how. A task may end by itself, in reaction to
the cancellation of its token, or never. Times count in nanoseconds of the local clock.
-/
namespace LeaseElection

inductive TaskFault where
  | panicked (message : String)
  | aborted
  deriving DecidableEq, Repr

/-- The text of a fault. Tasks are numbered anew in every process; `#` stands for the number. -/
def TaskFault.text : TaskFault → String
  | .panicked message => "task # panicked with message " ++ Text.quoted message
  | .aborted => "task # was cancelled"

abbrev TaskEnd (α : Type) := Except TaskFault α

inductive TaskCourse (α : Type) where
  | endless
  | ending (time : Nat) (result : TaskEnd α)
  /-- It ends some time after its token is cancelled. -/
  | yielding (delay : Nat) (result : TaskEnd α)
  deriving Repr

namespace TaskCourse

def outcome? : TaskCourse α → (cancelled : Option Nat) → Option (Nat × TaskEnd α)
  | .endless, _ => none
  | .ending time result, _ => some (time, result)
  | .yielding delay result, some cancelled => some (cancelled + delay, result)
  | .yielding .., none => none

def HasEndedBy (c : TaskCourse α) (time : Nat) : Prop := ∃ o ∈ c.outcome? none, o.1 ≤ time

instance (c : TaskCourse α) (time : Nat) : Decidable (c.HasEndedBy time) :=
  decidable_of_iff ((c.outcome? none).any (fun o => o.1 ≤ time) = true) (by
    simp [HasEndedBy, Option.any_eq_true])

/-- How a task ends that is awaited from a time on, and when that is known; nothing if it is still
running when the patience is exhausted. -/
def await (c : TaskCourse α) (cancelled : Option Nat) (start patience : Nat) :
    Option (TaskEnd α) × Nat :=
  match c.outcome? cancelled with
  | some (time, result) =>
    if time < start + patience then (some result, max start time) else (none, start + patience)
  | none => (none, start + patience)

end TaskCourse

end LeaseElection
