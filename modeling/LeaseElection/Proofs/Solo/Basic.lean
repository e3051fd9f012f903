import LeaseElection.Proofs.Contest.Basic
import LeaseElection.Proofs.Course.Account

/-!
# A participant alone with its store

A store without faults that one participant alone writes. Every call takes effect once, at some
instant after it was begun, whether or not its caller still waits for it; a caller that waits is
told in time what the call came to. The caller of the participant starts and cancels runs when it
likes, and a process may come to an end and be followed by another one.
-/
namespace LeaseElection

/-- A store call that was begun, what came of it once it has taken effect, and whether the
participant has heard of that. -/
structure Asking (τ : Type) where
  call : StoreCall τ
  /-- The stage at which the answer is awaited. -/
  stage : Stage τ
  /-- How many processes had ended when the call was begun. -/
  process : Nat
  outcome : Option (StoreAnswer τ)
  heard : Bool
  deriving DecidableEq

namespace Asking

def IsClaim (asking : Asking τ) : Prop :=
  match asking.stage with
  | .claiming .. => True
  | _ => False

def IsRenewal (asking : Asking τ) : Prop :=
  match asking.stage with
  | .renewing .. => True
  | _ => False

end Asking

/-- A participant, the versions of its record, and the calls that were begun, both listed latest
first. -/
structure Solo (τ : Type) where
  seat : Course τ
  /-- How many processes have ended. -/
  process : Nat
  versions : List (Version Unit τ)
  askings : List (Asking τ)
  /-- The versions that there were when the latest run began. -/
  before : List (Version Unit τ)

namespace Solo

/-- A participant that has not run yet, whatever its record is. -/
def initial (c : ElectionConfig) (now : Nat) (versions : List (Version Unit τ)) : Solo τ where
  seat := .initial c now
  process := 0
  versions := versions
  askings := []
  before := versions

/-- The calls once the participant has heard of something: an answer is one to the latest call. -/
def acknowledged (w : Solo τ) : Move τ → List (Asking τ)
  | .hear (.answered _) =>
    match w.askings with
    | [] => []
    | latest :: earlier => { latest with heard := true } :: earlier
  | _ => w.askings

/-- What a participant hears from the store is what its latest call came to. -/
def Honest (w : Solo τ) (move : Move τ) : Prop := ∀ answer, move = .hear (.answered answer) →
  ∃ latest earlier, w.askings = latest :: earlier ∧ latest.outcome = some answer

variable [DecidableEq τ] (c : ElectionConfig)

/-- A participant whose next run is about to start. -/
def opened (w : Solo τ) (cancelled : Bool) : Solo τ :=
  { w with seat := w.seat.opened cancelled, before := w.versions }

def act (w : Solo τ) (wall : Instant) (move : Move τ) : Solo τ where
  seat := w.seat.after c wall move
  process := match move with
    | .restart => w.process + 1
    | _ => w.process
  versions := w.versions
  askings := ((w.seat.calls c wall move).map fun call =>
    ⟨call, (w.seat.after c wall move).elector.stage, w.process, none, false⟩).reverse ++
      w.acknowledged move
  before := match move with
    | .start _ => w.versions
    | _ => w.before

def served (w : Solo τ) (call : StoreCall τ) (token : τ) :
    StoreAnswer τ × List (Version Unit τ) :=
  Version.serve w.versions c.key () w.seat.now token call

def serve (w : Solo τ) (later : List (Asking τ)) (asking : Asking τ) (earlier : List (Asking τ))
    (token : τ) : Solo τ :=
  { w with
    versions := (w.served c asking.call token).2
    askings :=
      later ++ { asking with outcome := some (w.served c asking.call token).1 } :: earlier }

def pass (w : Solo τ) (time : Nat) : Solo τ := { w with seat := w.seat.pass time }

/-- One thing happens. -/
inductive Step (w : Solo τ) : Solo τ → Prop
  /-- No call that is under way is given up for want of an answer. -/
  | act (wall : Instant) (move : Move τ) (allowed : w.seat.Allows move)
      (answered : w.seat.elector.stage.Calls → move ≠ .hear .timer) (honest : w.Honest move) :
      Step w (w.act c wall move)
  | serve (later : List (Asking τ)) (asking : Asking τ) (earlier : List (Asking τ)) (token : τ)
      (asked : w.askings = later ++ asking :: earlier) (pending : asking.outcome = none)
      (fresh : ∀ v ∈ w.versions, v.token ≠ token) :
      Step w (w.serve c later asking earlier token)
  | pass (time : Nat) : Step w (w.pass time)

/-- What may become of a participant alone with its store. -/
inductive Reachable : Solo τ → Prop
  | initial (now : Nat) (versions : List (Version Unit τ)) : Reachable (.initial c now versions)
  | step {w next : Solo τ} (reachable : Reachable w) (step : Step c w next) : Reachable next

namespace Reachable

variable {c} {w : Solo τ}

theorem acts (reachable : Reachable c w) (wall : Instant) (move : Move τ)
    (allowed : w.seat.Allows move) (answered : w.seat.elector.stage.Calls → move ≠ .hear .timer)
    (honest : w.Honest move) :
    Reachable c (w.act c wall move) := .step reachable (.act wall move allowed answered honest)

theorem serves (reachable : Reachable c w) (later : List (Asking τ)) (asking : Asking τ)
    (earlier : List (Asking τ)) (token : τ) (asked : w.askings = later ++ asking :: earlier)
    (pending : asking.outcome = none) (fresh : ∀ v ∈ w.versions, v.token ≠ token) :
    Reachable c (w.serve c later asking earlier token) :=
  .step reachable (.serve later asking earlier token asked pending fresh)

theorem waits (reachable : Reachable c w) (time : Nat) : Reachable c (w.pass time) :=
  .step reachable (.pass time)

end Reachable

/-- The latest run has returned as cancelled. -/
def Returned (w : Solo τ) : Prop := .did (.returned .cancelled) ∈ w.seat.trace

instance (w : Solo τ) : Decidable w.Returned := inferInstanceAs (Decidable (_ ∈ _))

/-- In the latest run the participant was told that a claim of it was written. -/
def Elected (w : Solo τ) : Prop := Trace.secured c.identity w.seat.trace ≠ none

instance (w : Solo τ) : Decidable (w.Elected c) :=
  inferInstanceAs (Decidable (Trace.secured c.identity w.seat.trace ≠ none))

/-- Every call that was begun has taken effect. -/
def Settled (w : Solo τ) : Prop := ∀ asking ∈ w.askings, asking.outcome ≠ none

instance (w : Solo τ) : Decidable w.Settled :=
  inferInstanceAs (Decidable (∀ asking ∈ w.askings, asking.outcome ≠ none))

/-- The stored record is held by this participant. -/
def Holds (w : Solo τ) : Prop :=
  ∃ newest ∈ w.versions.head?, newest.record.IsHeldBy c.identity

/-- The stored record is vacant. -/
def Vacated (w : Solo τ) : Prop := ∃ newest ∈ w.versions.head?, newest.record.IsVacant

/-- The stored record was written by this call, whose answer was not heard. -/
def Wrote (w : Solo τ) (asking : Asking τ) : Prop :=
  asking ∈ w.askings ∧ asking.heard = false ∧
    ∃ newest ∈ w.versions.head?, asking.outcome = some (.written newest.token)

/-- A claim, or a renewal of an earlier process. -/
def IsStray (w : Solo τ) (asking : Asking τ) : Prop :=
  asking.IsClaim ∨ (asking.IsRenewal ∧ asking.process ≠ w.process)

/-- A renewal of the present process. -/
def IsOwnRenewal (w : Solo τ) (asking : Asking τ) : Prop :=
  asking.IsRenewal ∧ asking.process = w.process

/-- The stored record was written by a claim, or by a renewal of an earlier process, whose answer
was not heard. -/
def Strayed (w : Solo τ) : Prop := ∃ asking, w.Wrote asking ∧ w.IsStray asking

/-- The stored record was written by a renewal of the present process whose answer was not heard. -/
def Overtaken (w : Solo τ) : Prop := ∃ asking, w.Wrote asking ∧ w.IsOwnRenewal asking

end Solo

end LeaseElection
