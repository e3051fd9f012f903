import LeaseElection.Election.Hooks
import LeaseElection.Election.Metrics
import LeaseElection.Elector.Basic
import LeaseElection.Host.Log

namespace LeaseElection

/-- The circumstances of a reaction. -/
structure Moment where
  now : Nat
  wall : Instant
  /-- Whether the caller has cancelled the run. -/
  cancelled : Bool
  deriving DecidableEq, Repr

/-- What an elector is told. -/
inductive Signal (τ : Type) where
  | start
  | cancelled
  /-- The store answers the call under way. -/
  | answered (answer : StoreAnswer τ)
  /-- The timer that was set has gone off. -/
  | timer
  | workEnded (panicked : Bool)
  deriving DecidableEq, Repr

/-- What an elector does. -/
inductive Effect (τ : Type) where
  | call (call : StoreCall τ)
  /-- The store call under way is given up. -/
  | abandon
  | publish (status : ElectionStatus)
  | hook (call : HookCall)
  | cancelWork
  | log (line : LogLine)
  | count (metric : Metric)
  | gauge (leading : Bool)
  | returned (outcome : ElectionOutcome)
  deriving DecidableEq, Repr

/-- An elector and what it did so far in reaction to a signal. -/
structure Turn (τ : Type) where
  elector : Elector τ
  effects : List (Effect τ)
  deriving DecidableEq, Repr

namespace Turn

def emit (t : Turn τ) (effect : Effect τ) : Turn τ := { t with effects := t.effects ++ [effect] }

def become (t : Turn τ) (stage : Stage τ) : Turn τ := { t with elector := { t.elector with stage } }

/-- Publishes a status, unless it is the published one already. -/
def publish (t : Turn τ) (status : ElectionStatus) : Turn τ :=
  if t.elector.status = status then t
  else ⟨{ t.elector with status }, t.effects ++ [.publish status]⟩

def enter (t : Turn τ) (phase : ElectionPhase) : Turn τ :=
  t.publish { t.elector.status with phase }

def follow (t : Turn τ) (leader : Option String) : Turn τ :=
  t.publish { t.elector.status with leader }

def identity (t : Turn τ) : String := t.elector.status.identity

/-- Reports a leader other than this participant, unless it is the one reported last. -/
def report (t : Turn τ) (leader : String) : Turn τ :=
  if leader = "" ∨ leader = t.identity ∨ t.elector.lastReported = some leader then t
  else
    let t := t.emit (.count .changesObserved)
    let t := { t with elector := { t.elector with lastReported := some leader } }
    t.emit (.hook (.newLeader leader))

end Turn

end LeaseElection
