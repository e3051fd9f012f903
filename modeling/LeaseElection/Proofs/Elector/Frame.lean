import LeaseElection.Proofs.Elector.Reaction

namespace LeaseElection.Elector

variable {τ : Type} {c : ElectionConfig} {m : Moment} {t : Turn τ} {held : Held τ}

@[simp] theorem finish_frame (outcome : ElectionOutcome) :
    (finish t outcome).elector.sighting = t.elector.sighting ∧
      (finish t outcome).elector.status.identity = t.elector.status.identity := by
  simp [finish]

@[simp] theorem depart_frame :
    (depart c m t held).elector.sighting = t.elector.sighting ∧
      (depart c m t held).elector.status.identity = t.elector.status.identity := by
  unfold depart release
  split <;> simp

@[simp] theorem stepDown_frame (reason : StopReason) (panicked : Bool) :
    (stepDown c m t held reason panicked).elector.sighting = t.elector.sighting ∧
      (stepDown c m t held reason panicked).elector.status.identity =
        t.elector.status.identity := by
  unfold stepDown
  cases reason with
  | cancelled => cases panicked <;> simp
  | lost successor => cases successor <;> cases panicked <;> simp

@[simp] theorem stop_frame (reason : StopReason) :
    (stop c m t held reason).elector.sighting = t.elector.sighting ∧
      (stop c m t held reason).elector.status.identity = t.elector.status.identity := by
  unfold stop
  dsimp only
  split <;> simp

@[simp] theorem hold_frame :
    (hold c m t held).elector.sighting = t.elector.sighting ∧
      (hold c m t held).elector.status.identity = t.elector.status.identity := by
  unfold hold
  split
  · simp
  · split <;> simp

@[simp] theorem renewalFailed_frame (stale : Bool) :
    (renewalFailed c m t held stale).elector.sighting = t.elector.sighting ∧
      (renewalFailed c m t held stale).elector.status.identity = t.elector.status.identity := by
  unfold renewalFailed reread
  split
  · split <;> simp
  · simp

@[simp] theorem reconsider_frame (current : Versioned τ) :
    (reconsider c m t held current).elector.sighting = t.elector.sighting ∧
      (reconsider c m t held current).elector.status.identity = t.elector.status.identity := by
  unfold reconsider
  split <;> simp

@[simp] theorem attempt_frame :
    (attempt c m t).elector.sighting = t.elector.sighting ∧
      (attempt c m t).elector.status.identity = t.elector.status.identity := by
  unfold attempt
  split <;> simp

@[simp] theorem rest_frame :
    (rest c m t).elector.sighting = t.elector.sighting ∧
      (rest c m t).elector.status.identity = t.elector.status.identity := by
  unfold rest
  split <;> simp

@[simp] theorem acquired_frame :
    (acquired c m t held).elector.sighting = t.elector.sighting ∧
      (acquired c m t held).elector.status.identity = t.elector.status.identity := by
  unfold acquired lead
  split
  · split <;> simp
  · simp

@[simp] theorem claim_frame (deadline : Nat) (record : LeaseRecord) (call : StoreCall τ) :
    (claim m t deadline record call).elector.sighting = t.elector.sighting ∧
      (claim m t deadline record call).elector.status.identity = t.elector.status.identity := by
  unfold claim
  split <;> simp

section Observing

variable [DecidableEq τ] (t : Turn τ) (current : Versioned τ)

/-- Observing sets the sighting; beyond that, at most a leader is published and reported. -/
theorem observe_frame :
    (observe m t current).elector.sighting = some (noted m t.elector.sighting current) ∧
      (observe m t current).elector.status.identity = t.elector.status.identity ∧
      (observe m t current).calls = t.calls ∧ (observe m t current).outcomes = t.outcomes := by
  unfold observe
  dsimp only
  split
  · simp
  · split <;> simp

@[simp] theorem observe_sighting :
    (observe m t current).elector.sighting = some (noted m t.elector.sighting current) :=
  (observe_frame t current).1

@[simp] theorem observe_identity : (observe m t current).identity = t.identity :=
  (observe_frame t current).2.1

@[simp] theorem observe_calls : (observe m t current).calls = t.calls :=
  (observe_frame t current).2.2.1

@[simp] theorem observe_outcomes : (observe m t current).outcomes = t.outcomes :=
  (observe_frame t current).2.2.2

end Observing

theorem consider_frame [DecidableEq τ] (deadline : Nat) (current : Versioned τ) :
    (consider c m t deadline current).elector.sighting =
        some (noted m t.elector.sighting current) ∧
      (consider c m t deadline current).elector.status.identity = t.elector.status.identity := by
  have identity := observe_identity (m := m) t current
  simp only [Turn.identity] at identity
  unfold consider
  dsimp only
  split <;> simp [identity]

section Reacting

variable {e : Elector τ}

/-- The sighting that a participant has once it has taken note of a signal. -/
def sightingAfter [DecidableEq τ] (m : Moment) (e : Elector τ) :
    Signal τ → Option (Sighting τ)
  | .start => if e.stage = .idle then none else e.sighting
  | .answered (.found current) =>
      match e.stage with
      | .reading _ => some (noted m e.sighting current)
      | _ => e.sighting
  | _ => e.sighting

theorem Ignores.sightingAfter [DecidableEq τ] {signal : Signal τ} (ignores : e.Ignores c m signal) :
    sightingAfter m e signal = e.sighting := by
  cases signal with
  | start => exact if_neg ignores
  | answered answer =>
      cases answer with
      | found current =>
          cases stage : e.stage with
          | reading deadline => exact absurd (stage ▸ trivial) ignores
          | _ => simp [Elector.sightingAfter, stage]
      | written token | failed error => rfl
  | cancelled | timer | workEnded panicked => rfl

theorem step_frame [DecidableEq τ] (signal : Signal τ) :
    (e.step c m signal).elector.sighting = sightingAfter m e signal ∧
      (e.step c m signal).elector.status.identity = e.status.identity := by
  have reacts := step_reacts c m e signal
  generalize stage : e.stage = s at reacts
  generalize e.step c m signal = t at reacts ⊢
  cases reacts with
  | ignores ignores => exact ⟨ignores.sightingAfter.symm, rfl⟩
  | starts => simp [sightingAfter, stage, cleared]
  | considers => simp [sightingAfter, stage, consider_frame]
  | reconsiders => simp [sightingAfter, stage]
  | withdraws begins seeks cancels | quits begins leads cancels =>
      cases signal with
      | cancelled | timer => simp [sightingAfter, begins.elector]
      | _ => exact cancels.elim
  | rests begins seeks fails | goesUnreleased begins text fails =>
      cases signal with
      | timer => simp [sightingAfter, begins.elector]
      | answered answer =>
          cases answer with
          | failed error => simp [sightingAfter, begins.elector]
          | _ => exact fails.elim
      | _ => exact fails.elim
  | expires begins leads late => simp [sightingAfter, begins.elector]
  | founds missing => simp [sightingAfter, found]
  | renews free early => simp [sightingAfter, renew]
  | retries | acquires | goesUnrenewed late | renewed | fails | resumes | released
    | notes running going | stepsDown running => simp [sightingAfter]

end Reacting

end LeaseElection.Elector
