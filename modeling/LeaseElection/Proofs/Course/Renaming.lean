import LeaseElection.Proofs.Course.Basic
import LeaseElection.Proofs.Elector.Renaming
import Mathlib.Data.List.Forall2

/-!
# Courses under other names

Two participants live through the same things, but their stores call the tokens by different names.
They do the same at the same times: the same hooks are called, the same statuses are published, the
runs end alike, and the same records are written, each under the new name of the token. What happens
is listed latest first, and what is done in the order in which it is done.
-/
namespace LeaseElection

/-- What a participant lives through: something is done to it, or time passes. -/
inductive Occurrence (τ : Type) where
  | move (wall : Instant) (move : Move τ)
  | pass (time : Nat)
  deriving DecidableEq, Repr

/-- Something that was done, and the local time at which it was done. -/
structure Deed (τ : Type) where
  time : Nat
  effect : Effect τ
  deriving DecidableEq, Repr

namespace Course

variable [DecidableEq τ] (c : ElectionConfig)

/-- What a participant does in a move. -/
def effects (k : Course τ) (wall : Instant) : Move τ → List (Effect τ)
  | .start cancelled => ((k.opened cancelled).turn c wall .start).effects
  | .hear signal => (k.turn c wall signal).effects
  | .cancel | .restart => []

def meet (k : Course τ) : Occurrence τ → Course τ
  | .move wall move => k.after c wall move
  | .pass time => k.pass time

def deedsIn (k : Course τ) : Occurrence τ → List (Deed τ)
  | .move wall move => (k.effects c wall move).map (Deed.mk k.now)
  | .pass _ => []

/-- A participant that has lived through all this. -/
def live (k : Course τ) : List (Occurrence τ) → Course τ
  | [] => k
  | latest :: earlier => (k.live earlier).meet c latest

/-- What a participant did when it lived through all this. -/
def deeds (k : Course τ) : List (Occurrence τ) → List (Deed τ)
  | [] => []
  | latest :: earlier => k.deeds earlier ++ (k.live c earlier).deedsIn c latest

end Course

namespace Effect

def hook? : Effect τ → Option HookCall
  | .hook called => some called
  | _ => none

def status? : Effect τ → Option ElectionStatus
  | .publish status => some status
  | _ => none

end Effect

namespace Deed

/-- One kind of thing that was done, with the times. -/
def seen {α : Type} (kind : Effect τ → Option α) (deeds : List (Deed τ)) : List (Nat × α) :=
  deeds.filterMap fun deed => (kind deed.effect).map (Prod.mk deed.time)

def rename (f : σ → τ) (deed : Deed σ) : Deed τ := ⟨deed.time, deed.effect.rename f⟩

/-- The same things were done at the same times, under other names of tokens. -/
structure Renamed (f : σ → τ) (first : List (Deed σ)) (second : List (Deed τ)) : Prop where
  hooks : seen Effect.hook? second = seen Effect.hook? first
  statuses : seen Effect.status? second = seen Effect.status? first
  outcomes : seen Effect.outcome? second = seen Effect.outcome? first
  calls : seen Effect.call? second =
    (seen Effect.call? first).map fun called => (called.1, called.2.rename f)
  all : second = first.map (rename f)

variable {f : σ → τ}

/-- A renaming that changes what is seen of each effect changes just that in what is seen of all. -/
theorem seen_rename {α β : Type} (kind : Effect σ → Option α) (other : Effect τ → Option β)
    (change : α → β) (changed : ∀ effect, other (effect.rename f) = (kind effect).map change)
    (deeds : List (Deed σ)) :
    seen other (deeds.map (rename f)) =
      (seen kind deeds).map fun saw => (saw.1, change saw.2) := by
  simp only [seen, List.filterMap_map, List.map_filterMap]
  congr 1
  funext deed
  simp only [Function.comp_apply, rename, changed, Option.map_map]
  rfl

theorem seen_of_same {α : Type} (kind : Effect σ → Option α) (other : Effect τ → Option α)
    (same : ∀ effect, other (effect.rename f) = kind effect) (deeds : List (Deed σ)) :
    seen other (deeds.map (rename f)) = seen kind deeds := by
  have unchanged := seen_rename kind other id (by simpa using same) deeds
  simpa using unchanged

theorem renamed_rename (deeds : List (Deed σ)) : Renamed f deeds (deeds.map (rename f)) where
  hooks := seen_of_same _ _ (by intro effect; cases effect <;> rfl) deeds
  statuses := seen_of_same _ _ (by intro effect; cases effect <;> rfl) deeds
  outcomes := seen_of_same _ _ (by intro effect; cases effect <;> rfl) deeds
  calls := seen_rename _ _ _ (by intro effect; cases effect <;> rfl) deeds
  all := rfl

end Deed

/-- Whether a move is another one with its tokens renamed. -/
inductive Move.Renames (f : σ → τ) : Move σ → Move τ → Prop
  | start (cancelled : Bool) : Renames f (.start cancelled) (.start cancelled)
  | cancel : Renames f .cancel .cancel
  | hear {signal : Signal σ} {other : Signal τ} (renames : signal.Renames f other) :
      Renames f (.hear signal) (.hear other)
  | restart : Renames f .restart .restart

/-- Whether the same occurs at the same time, under other names of tokens. -/
inductive Occurrence.Renames (f : σ → τ) : Occurrence σ → Occurrence τ → Prop
  | move (wall : Instant) {move : Move σ} {other : Move τ} (renames : move.Renames f other) :
      Renames f (.move wall move) (.move wall other)
  | pass (time : Nat) : Renames f (.pass time) (.pass time)

namespace Course

/-- The second participant is the first one with its tokens renamed. -/
structure Renamed (f : σ → τ) (first : Course σ) (second : Course τ) : Prop where
  elector : second.elector = first.elector.rename f
  now : second.now = first.now
  cancelled : second.cancelled = first.cancelled

variable {f : σ → τ} {c : ElectionConfig} {k : Course σ} {k' : Course τ}

theorem Renamed.opened (renamed : k.Renamed f k') (cancelled : Bool) :
    (k.opened cancelled).Renamed f (k'.opened cancelled) :=
  ⟨renamed.elector, renamed.now, rfl⟩

variable [DecidableEq σ] [DecidableEq τ]

theorem Renamed.turn (renamed : k.Renamed f k') (injective : Function.Injective f) (wall : Instant)
    {signal : Signal σ} {other : Signal τ} (renames : signal.Renames f other) :
    k'.turn c wall other = (k.turn c wall signal).rename f := by
  have moment : k'.moment wall = k.moment wall := by
    rw [Course.moment, Course.moment, renamed.now, renamed.cancelled]
  rw [Course.turn, Course.turn, moment, renamed.elector,
    k.elector.step_rename c (k.moment wall) injective renames]

theorem Renamed.hear (renamed : k.Renamed f k') (injective : Function.Injective f) (wall : Instant)
    {signal : Signal σ} {other : Signal τ} (renames : signal.Renames f other) :
    (k.hear c wall signal).Renamed f (k'.hear c wall other) where
  elector := congrArg Turn.elector (renamed.turn injective wall renames)
  now := renamed.now
  cancelled := renamed.cancelled

/-- One step of both: they are still the same up to names, and did the same. -/
theorem Renamed.meet (renamed : k.Renamed f k') (injective : Function.Injective f)
    {occurrence : Occurrence σ} {other : Occurrence τ} (renames : occurrence.Renames f other) :
    (k.meet c occurrence).Renamed f (k'.meet c other) ∧
      k'.deedsIn c other = (k.deedsIn c occurrence).map (Deed.rename f) := by
  have deeds {t : Turn σ} {t' : Turn τ} (same : t' = t.rename f) :
      t'.effects.map (Deed.mk k'.now) =
        (t.effects.map (Deed.mk k.now)).map (Deed.rename f) := by
    rw [same, renamed.now]
    simp only [Turn.rename, List.map_map]
    rfl
  cases renames with
  | pass time => exact ⟨⟨renamed.elector, congrArg (· + time) renamed.now, renamed.cancelled⟩, rfl⟩
  | move wall renames =>
      cases renames with
      | start cancelled =>
          have opened := renamed.opened cancelled
          exact ⟨opened.hear injective wall .start, deeds (opened.turn injective wall .start)⟩
      | cancel => exact ⟨⟨renamed.elector, renamed.now, rfl⟩, rfl⟩
      | hear heard =>
          exact ⟨renamed.hear injective wall heard, deeds (renamed.turn injective wall heard)⟩
      | restart => exact ⟨⟨rfl, renamed.now, rfl⟩, rfl⟩

theorem Renamed.live (renamed : k.Renamed f k') (injective : Function.Injective f)
    {first : List (Occurrence σ)} {second : List (Occurrence τ)}
    (renames : List.Forall₂ (Occurrence.Renames f) first second) :
    (k.live c first).Renamed f (k'.live c second) ∧
      k'.deeds c second = (k.deeds c first).map (Deed.rename f) := by
  induction renames with
  | nil => exact ⟨renamed, rfl⟩
  | cons latest earlier ih =>
      obtain ⟨before, done⟩ := ih
      obtain ⟨after, deeds⟩ := before.meet (c := c) injective latest
      refine ⟨after, ?_⟩
      rw [Course.deeds, Course.deeds, done, deeds, List.map_append]

/-- Tokens are opaque to a participant: where a store calls them by other names, different ones by
different names, nothing else changes. -/
theorem renaming_kept (injective : Function.Injective f) (c : ElectionConfig) (now : Nat)
    {first : List (Occurrence σ)} {second : List (Occurrence τ)}
    (renames : List.Forall₂ (Occurrence.Renames f) first second) :
    Deed.Renamed f ((initial c now).deeds c first) ((initial c now).deeds c second) := by
  have alike : (initial c now : Course σ).Renamed f (initial c now) := ⟨rfl, rfl, rfl⟩
  rw [(alike.live (c := c) injective renames).2]
  exact Deed.renamed_rename _

/-- A leader whose renewal meets with a conflict, at two stores that number their versions in
different ways. -/
theorem renaming_kept_conflict :
    ∃ first second : List (Occurrence Nat), Function.Injective (fun token : Nat => token + 40) ∧
      List.Forall₂ (Occurrence.Renames (· + 40)) first second ∧
      ((initial (.usual "a") 0).live (.usual "a") first).elector.status.IsLeader ∧
      Deed.Renamed (· + 40) ((initial (.usual "a") 0).deeds (.usual "a") first)
        ((initial (.usual "a") 0).deeds (.usual "a") second) := by
  have injective : Function.Injective (fun token : Nat => token + 40) :=
    fun _ _ same => Nat.add_right_cancel same
  have missing : StoreError.Alike (.notFound (ElectionConfig.usual "a").key) _ := .same
  have stale : StoreError.Alike (.conflict (ElectionConfig.usual "a").key "1")
      (.conflict (ElectionConfig.usual "a").key "41") := .conflict
  have moves {move other : Move Nat} (renames : move.Renames (· + 40) other) :
      Occurrence.Renames (· + 40) (.move .epoch move) (.move .epoch other) := .move .epoch renames
  have renames : List.Forall₂ (Occurrence.Renames (· + 40)) _ _ :=
    .cons (moves (.hear (.answered
      (.found ⟨.claimed "a" (ElectionConfig.usual "a").lease .epoch, 2⟩)))) <|
    .cons (moves (.hear (.answered (.failed stale)))) <|
    .cons (moves (.hear .timer)) <|
    .cons (.pass 2000000000) <|
    .cons (moves (.hear (.answered (.written 1)))) <|
    .cons (moves (.hear (.answered (.failed missing)))) <|
    .cons (moves (.start false)) .nil
  exact ⟨_, _, injective, renames, by decide, renaming_kept injective (.usual "a") 0 renames⟩

end Course

end LeaseElection
