import LeaseElection.Election.Resolution
import LeaseElection.Proofs.Course.Basic
import Mathlib.Logic.Function.Basic

/-!
# Contests over one record

Any number of participants share one lock record that only they write and nobody deletes. A call
takes effect at some instant after it was begun, at most once, perhaps long after its caller has
given it up, and its answer may arrive late, or as an error, or not at all. Everybody's local clock
runs at one rate; wall clocks show what they like.
-/
namespace LeaseElection

/-- Who takes part in a contest, and which clocks they have. -/
structure Roster (ι : Type) where
  config : ι → ElectionConfig
  /-- What a participant's wall clock shows when this many nanoseconds have passed. -/
  wall : ι → Nat → Instant
  /-- What a participant's local clock shows at the start. -/
  offset : ι → Nat
  pace : Pace
  resolved : ∀ i, ∃ (raw : ElectionConfig) (surroundings : Surroundings),
    raw.resolve surroundings = .ok (config i)
  distinct : ∀ i j, (config i).identity = (config j).identity → i = j

/-- Two participants with the usual timings, whose clocks are right. -/
def Roster.pair : Roster Bool where
  config i := .usual (if i then "b" else "a")
  wall _ now := (Instant.ofNanoseconds? now).getD .last
  offset _ := 0
  pace := ⟨true, true⟩
  resolved i := ⟨.usual (if i then "b" else "a"), ⟨.ok "host", "1", fun _ => .ok ""⟩, by
    cases i <;> rfl⟩
  distinct := by decide

/-- A version of the record, with who wrote it and when that write was begun. -/
structure Version (ι τ : Type) extends Versioned τ where
  writer : ι
  begun : Nat

/-- A store call of a participant, and what came of it once it has taken effect. -/
structure Request (τ : Type) where
  call : StoreCall τ
  begun : Nat
  outcome : Option (StoreAnswer τ)

/-- Participants, the versions of the record, and the calls that were begun. Versions, calls and
events are listed latest first. -/
structure Contest (ι τ : Type) where
  now : Nat
  seats : ι → Course τ
  versions : List (Version ι τ)
  requests : ι → List (Request τ)
  log : List (ι × Event τ)

def StoreCall.record? : StoreCall τ → Option LeaseRecord
  | .get => none
  | .create record | .update record _ => some record

/-- The calls that a participant begins in a move. -/
def Course.calls [DecidableEq τ] (c : ElectionConfig) (wall : Instant) (k : Course τ) :
    Move τ → List (StoreCall τ)
  | .start cancelled => ((k.opened cancelled).turn c wall .start).calls
  | .hear signal => (k.turn c wall signal).calls
  | .cancel | .restart => []

namespace Version

/-- What the store answers when a call takes effect, and the versions there are afterwards; a
version that is written gets a new token. -/
def serve [DecidableEq τ] (versions : List (Version ι τ)) (key : RecordKey) (writer : ι)
    (begun : Nat) (token : τ) : StoreCall τ → StoreAnswer τ × List (Version ι τ)
  | .get =>
    match versions with
    | [] => (.failed (.notFound key), versions)
    | newest :: _ => (.found newest.toVersioned, versions)
  | .create record =>
    match versions with
    | [] => (.written token, [⟨⟨record, token⟩, writer, begun⟩])
    | _ :: _ => (.failed (.alreadyExists key), versions)
  | .update record presented =>
    match versions with
    | [] => (.failed (.notFound key), versions)
    | newest :: _ =>
      if newest.token = presented then
        (.written token, ⟨⟨record, token⟩, writer, begun⟩ :: versions)
      else (.failed (.conflict key ""), versions)

end Version

namespace Contest

variable {ι τ : Type} [DecidableEq ι] [DecidableEq τ] (R : Roster ι)

def initial : Contest ι τ where
  now := 0
  seats i := .initial (R.config i) (R.offset i)
  versions := []
  requests _ := []
  log := []

def eventsOf (i : ι) (log : List (ι × Event τ)) : Trace τ :=
  log.filterMap fun entry => if entry.1 = i then some entry.2 else none

/-- Whether an answer is one that may be given to a participant now: the one its latest call has
come to, or any error. -/
def MayAnswer (w : Contest ι τ) (i : ι) (answer : StoreAnswer τ) : Prop :=
  (∃ error, answer = .failed error) ∨
    ∃ request earlier, w.requests i = request :: earlier ∧ request.outcome = some answer

def act (w : Contest ι τ) (i : ι) (move : Move τ) : Contest ι τ :=
  let k := w.seats i
  let c := R.config i
  let wall := R.wall i w.now
  { w with
    seats := Function.update w.seats i (k.after c wall move)
    requests := Function.update w.requests i
      (((k.calls c wall move).map fun call => ⟨call, w.now, none⟩).reverse ++ w.requests i)
    log := (k.news c wall move).map (fun event => (i, event)) ++ w.log }

def serve (w : Contest ι τ) (i : ι) (later : List (Request τ)) (call : StoreCall τ) (begun : Nat)
    (earlier : List (Request τ)) (token : τ) : Contest ι τ :=
  let served := Version.serve w.versions (R.config i).key i begun token call
  { w with
    versions := served.2
    requests := Function.update w.requests i
      (later ++ ⟨call, begun, some served.1⟩ :: earlier) }

def pass (w : Contest ι τ) (time : Nat) : Contest ι τ :=
  { w with now := w.now + time, seats := fun i => (w.seats i).pass time }

section Frame

variable (w : Contest ι τ) (i : ι) {j : ι} (move : Move τ) (later earlier : List (Request τ))
  (call : StoreCall τ) (begun : Nat) (token : τ)

theorem act_seat : (w.act R i move).seats i =
    (w.seats i).after (R.config i) (R.wall i w.now) move := Function.update_self ..

theorem act_requests : (w.act R i move).requests i =
    (((w.seats i).calls (R.config i) (R.wall i w.now) move).map
      fun call => ⟨call, w.now, none⟩).reverse ++ w.requests i := Function.update_self ..

theorem act_seat_of_ne (other : j ≠ i) : (w.act R i move).seats j = w.seats j :=
  Function.update_of_ne other ..

theorem act_requests_of_ne (other : j ≠ i) : (w.act R i move).requests j = w.requests j :=
  Function.update_of_ne other ..

theorem serve_requests : (w.serve R i later call begun earlier token).requests i =
    later ++ ⟨call, begun, some (Version.serve w.versions (R.config i).key i begun token
      call).1⟩ :: earlier := Function.update_self ..

theorem serve_requests_of_ne (other : j ≠ i) :
    (w.serve R i later call begun earlier token).requests j = w.requests j :=
  Function.update_of_ne other ..

end Frame

inductive Step (w : Contest ι τ) : Contest ι τ → Prop
  | act (i : ι) (move : Move τ) (allowed : (w.seats i).Allows move)
      (honest : ∀ answer, move = .hear (.answered answer) → w.MayAnswer i answer) :
      Step w (w.act R i move)
  | serve (i : ι) (later : List (Request τ)) (call : StoreCall τ) (begun : Nat)
      (earlier : List (Request τ)) (token : τ)
      (asked : w.requests i = later ++ ⟨call, begun, none⟩ :: earlier)
      (fresh : ∀ v ∈ w.versions, v.token ≠ token) :
      Step w (w.serve R i later call begun earlier token)
  | pass (time : Nat) (may : ∀ i, (w.seats i).MayPass (R.config i) R.pace time) :
      Step w (w.pass time)

/-- What may become of a contest. -/
inductive Reachable : Contest ι τ → Prop
  | initial : Reachable (.initial R)
  | step {w next : Contest ι τ} (reachable : Reachable w) (step : Step R w next) : Reachable next

namespace Reachable

variable {R} {w : Contest ι τ}

theorem acts (reachable : Reachable R w) (i : ι) (move : Move τ) (allowed : (w.seats i).Allows move)
    (honest : ∀ answer, move = .hear (.answered answer) → w.MayAnswer i answer) :
    Reachable R (w.act R i move) := .step reachable (.act i move allowed honest)

theorem serves (reachable : Reachable R w) (i : ι) (later : List (Request τ)) (call : StoreCall τ)
    (begun : Nat) (earlier : List (Request τ)) (token : τ)
    (asked : w.requests i = later ++ ⟨call, begun, none⟩ :: earlier)
    (fresh : ∀ v ∈ w.versions, v.token ≠ token) :
    Reachable R (w.serve R i later call begun earlier token) :=
  .step reachable (.serve i later call begun earlier token asked fresh)

end Reachable

end Contest

end LeaseElection
