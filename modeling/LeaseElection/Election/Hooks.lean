/-!
# Hooks

What a participant is told while it takes part: that it started leading, that it stopped, and who
else leads. The first hook is always there and starts the leader's workload; the others may be
missing.
-/
namespace LeaseElection

/-- Which of the optional hooks are set. -/
structure Hooks where
  stopped : Bool
  newLeader : Bool
  deriving DecidableEq, Repr

/-- A call of a hook. -/
inductive HookCall where
  /-- Leading starts; the workload's token may be cancelled already. -/
  | started (cancelled : Bool)
  | stopped
  | newLeader (identity : String)
  deriving DecidableEq, Repr

namespace Hooks

def Handles (h : Hooks) : HookCall → Prop
  | .started _ => True
  | .stopped => h.stopped = true
  | .newLeader _ => h.newLeader = true

instance (h : Hooks) (call : HookCall) : Decidable (h.Handles call) := by
  cases call <;> unfold Handles <;> infer_instance

def inspect (h : Hooks) : String :=
  let text (b : Bool) : String := if b then "true" else "false"
  "Callbacks \x7b on_stopped_leading: " ++ text h.stopped ++ ", on_new_leader: "
    ++ text h.newLeader ++ ", .. \x7d"

end Hooks

end LeaseElection
