import LeaseElection.Proofs.Elector.Passage

/-!
# The course of a participant

One elector among surroundings that do as they please. The caller starts and cancels runs, the
store answers whatever it likes whenever it likes, a workload ends when it likes, the wall clock
shows what it likes, and time passes in between. The trace tells the latest run: all that the
participant was told and all that it did, the latest event first, so that every tail of the trace
is what had happened at some instant.
-/
namespace LeaseElection

/-- What happens to a participant, and what it does. -/
inductive Event (τ : Type) where
  | told (m : Moment) (signal : Signal τ)
  | did (effect : Effect τ)
  /-- The caller cancels the run. -/
  | cancelled
  /-- The participant's process comes to an end, and a new one takes its place. -/
  | restarted
  deriving DecidableEq, Repr

/-- What is done to a participant. -/
inductive Move (τ : Type) where
  /-- A run is started; its token may be cancelled already. -/
  | start (cancelled : Bool)
  | cancel
  | hear (signal : Signal τ)
  | restart
  deriving DecidableEq, Repr

/-- What may be relied on in the passing of time. -/
structure Pace where
  /-- Timers fire on time. -/
  punctual : Bool
  /-- Every workload ends as soon as its token is cancelled. -/
  prompt : Bool
  deriving DecidableEq, Repr

/-- What happened, the latest event first. -/
abbrev Trace (τ : Type) := List (Event τ)

/-- A participant, its local time, and the trace of its latest run. -/
structure Course (τ : Type) where
  elector : Elector τ
  now : Nat
  /-- Whether the caller has cancelled the latest run. -/
  cancelled : Bool
  trace : Trace τ
  deriving DecidableEq, Repr

/-- The trace once the effects of a turn are added to what happened before. -/
def Turn.trace (t : Turn τ) (past : Trace τ) : Trace τ :=
  t.effects.foldl (fun past effect => .did effect :: past) past

/-- The usual timings, for a participant of some identity. -/
def ElectionConfig.usual (identity : String) : ElectionConfig :=
  { ElectionConfig.default with identity, nameSpace := "default", name := "lock" }

namespace Course

def initial (c : ElectionConfig) (now : Nat) : Course τ := ⟨.new c.identity, now, false, []⟩

/-- What may be done to a participant: a run starts where there is none, a cancellation is heard of
where there is one, and an answer is one to the call under way. -/
def Allows (k : Course τ) : Move τ → Prop
  | .start _ => k.elector.stage = .idle
  | .hear .start => False
  | .hear .cancelled => k.cancelled = true
  | .hear (.answered answer) => k.elector.stage.Expects answer
  | .hear (.workEnded _) => k.elector.work = .running
  | .hear .timer | .cancel | .restart => True

theorem Allows.expected {k : Course τ} {signal : Signal τ} (allowed : k.Allows (.hear signal)) :
    ∀ answer, signal = .answered answer → k.elector.stage.Expects answer := by
  rintro answer rfl
  exact allowed

/-- The circumstances in which a participant reacts. -/
def moment (k : Course τ) (wall : Instant) : Moment := ⟨k.now, wall, k.cancelled⟩

variable [DecidableEq τ] (c : ElectionConfig) (wall : Instant)

/-- The turn in which a participant reacts to a signal. -/
def turn (k : Course τ) (signal : Signal τ) : Turn τ := k.elector.step c (k.moment wall) signal

/-- A participant once it has reacted to a signal. -/
def hear (k : Course τ) (signal : Signal τ) : Course τ :=
  { k with
    elector := (k.turn c wall signal).elector
    trace := (k.turn c wall signal).trace (.told (k.moment wall) signal :: k.trace) }

/-- A participant whose next run is about to start, with a token that may be cancelled already. -/
def opened (k : Course τ) (cancelled : Bool) : Course τ :=
  { k with cancelled, trace := if cancelled then [.cancelled] else [] }

/-- A participant after a move. -/
def after (k : Course τ) : Move τ → Course τ
  | .start cancelled => (k.opened cancelled).hear c wall .start
  | .cancel => { k with cancelled := true, trace := .cancelled :: k.trace }
  | .hear signal => k.hear c wall signal
  | .restart => initial c k.now

/-- What happens in a move, the latest event first. -/
def news (k : Course τ) : Move τ → Trace τ
  | .start cancelled => ((k.opened cancelled).hear c wall .start).trace
  | .cancel => [.cancelled]
  | .hear signal => (k.turn c wall signal).trace [.told (k.moment wall) signal]
  | .restart => [.restarted]

/-- A participant when some time has passed. -/
def pass (k : Course τ) (time : Nat) : Course τ := { k with now := k.now + time }

/-- Whether some time may pass: where timers fire on time, not beyond the timer that is set, and
where workloads end promptly, not while the end of one is awaited. -/
def MayPass (pace : Pace) (k : Course τ) (time : Nat) : Prop :=
  (pace.punctual = true → ∀ due, k.elector.alarm? c = some due → k.now + time ≤ due) ∧
    (pace.prompt = true → ∀ held reason, k.elector.stage = .stopping held reason → time = 0)

/-- One thing happens. -/
inductive Step (pace : Pace) (k : Course τ) : Course τ → Prop
  | move (wall : Instant) (move : Move τ) (allowed : k.Allows move) :
      Step pace k (k.after c wall move)
  | pass (time : Nat) (may : MayPass c pace k time) : Step pace k (k.pass time)

/-- What may become of a participant. -/
inductive Reachable (pace : Pace) : Course τ → Prop
  | initial (now : Nat) : Reachable pace (.initial c now)
  | step {k next : Course τ} (reachable : Reachable pace k) (step : Step c pace k next) :
      Reachable pace next

namespace Reachable

variable {c} {pace : Pace} {k : Course τ}

theorem does (reachable : Reachable c pace k) (wall : Instant) (move : Move τ)
    (allowed : k.Allows move) : Reachable c pace (k.after c wall move) :=
  .step reachable (.move wall move allowed)

theorem waits (reachable : Reachable c pace k) (time : Nat) (may : MayPass c pace k time) :
    Reachable c pace (k.pass time) := .step reachable (.pass time may)

end Reachable

end Course

end LeaseElection
