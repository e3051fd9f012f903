import LeaseElection.Proofs.Course.Account

namespace LeaseElection

/-- Whether an effect shows the participant leading. -/
def Effect.Leads : Effect τ → Prop
  | .publish status => status.phase.Leads
  | .hook (.started _) => True
  | _ => False

/-- A turn in which the participant does not lead at any time. -/
structure Turn.Modest (t : Turn τ) : Prop where
  phase : ¬ t.elector.status.phase.Leads
  effects : ∀ effect ∈ t.effects, ¬ effect.Leads

namespace Turn.Modest

variable {t : Turn τ}

theorem emit (modest : t.Modest) (effect : Effect τ) (other : ¬ effect.Leads) :
    (t.emit effect).Modest := by
  refine ⟨modest.phase, ?_⟩
  intro done among
  rcases List.mem_append.mp among with before | last
  · exact modest.effects done before
  · rwa [List.mem_singleton.mp last]

theorem become (modest : t.Modest) (s : Stage τ) : (t.become s).Modest :=
  ⟨modest.phase, modest.effects⟩

theorem publish (modest : t.Modest) (status : ElectionStatus) (phase : ¬ status.phase.Leads) :
    (t.publish status).Modest := by
  refine ⟨by rwa [publish_status], ?_⟩
  intro done among
  unfold Turn.publish at among
  split at among
  · exact modest.effects done among
  · rcases List.mem_append.mp among with before | last
    · exact modest.effects done before
    · rwa [List.mem_singleton.mp last]

theorem enter (modest : t.Modest) (phase : ElectionPhase) (other : ¬ phase.Leads) :
    (t.enter phase).Modest := modest.publish _ other

theorem follow (modest : t.Modest) (leader : Option String) : (t.follow leader).Modest :=
  modest.publish _ modest.phase

theorem report (modest : t.Modest) (leader : String) : (t.report leader).Modest := by
  unfold Turn.report
  split
  · exact modest
  · have counted := modest.emit (.count .changesObserved) id
    have noted : (Turn.mk { t.elector with lastReported := some leader }
        (t.emit (.count .changesObserved)).effects).Modest := ⟨counted.phase, counted.effects⟩
    exact noted.emit (.hook (.newLeader leader)) id

end Turn.Modest

namespace Elector

variable {τ : Type} {c : ElectionConfig} {m : Moment} {signal : Signal τ} {t : Turn τ}
  {e : Elector τ}

theorem finish_modest (modest : t.Modest) (outcome : ElectionOutcome) :
    (finish t outcome).Modest :=
  ((modest.enter .idle (by decide)).become .idle).emit (.returned outcome) id

theorem depart_modest {held : Held τ} (modest : t.Modest) : (depart c m t held).Modest := by
  unfold depart
  split
  · exact (modest.become _).emit (.call _) id
  · exact finish_modest modest _

theorem stepDown_modest {held : Held τ} (modest : t.Modest) (reason : StopReason)
    (panicked : Bool) : (stepDown c m t held reason panicked).Modest := by
  have absent : (Turn.mk { t.elector with work := .absent } t.effects).Modest :=
    ⟨modest.phase, modest.effects⟩
  have logged : (if panicked then
        (Turn.mk { t.elector with work := .absent } t.effects).emit
          (.log (.error "leader workload panicked"))
      else Turn.mk { t.elector with work := .absent } t.effects).Modest := by
    split
    · exact absent.emit _ id
    · exact absent
  have stopped := (logged.emit (.gauge false) id).emit (.hook .stopped) id
  unfold stepDown
  cases reason with
  | cancelled => exact depart_modest stopped
  | lost successor =>
      have counted := stopped.emit (.count .abdications) id
      have warned := counted.emit (.log (.warn "stopped leading: leadership lost")) id
      have followed := warned.follow successor
      cases successor with
      | none => exact finish_modest followed _
      | some leader => exact finish_modest (followed.report leader) _

theorem attempt_modest (modest : t.Modest) : (attempt c m t).Modest := by
  unfold attempt
  split
  · exact finish_modest modest _
  · exact (modest.become _).emit (.call .get) id

theorem rest_modest (modest : t.Modest) : (rest c m t).Modest := by
  unfold rest
  split
  · exact finish_modest modest _
  · exact modest.become _

theorem claim_modest (modest : t.Modest) (deadline : Nat) (record : LeaseRecord)
    (call : StoreCall τ) : (claim m t deadline record call).Modest := by
  unfold claim
  split
  · exact finish_modest modest _
  · exact (modest.become _).emit (.call call) id

theorem consider_modest [DecidableEq τ] (modest : t.Modest) (deadline : Nat)
    (current : Versioned τ) : (consider c m t deadline current).Modest := by
  have observed : (observe m t current).Modest := by
    have seen : (Turn.mk
        { t.elector with sighting := some (noted m t.elector.sighting current) }
        t.effects).Modest := ⟨modest.phase, modest.effects⟩
    unfold observe
    dsimp only
    split
    · exact seen.follow none
    · split
      · exact seen
      · exact (seen.follow _).report _
  unfold consider
  dsimp only
  split
  · exact claim_modest observed _ _ _
  · exact rest_modest observed

/-- There is no claim to lead by, or leadership is about to stop. -/
def Powerless (identity : String) (s : Stage τ) (signal : Signal τ) : Prop :=
  ∀ held, Keeps identity s signal held → ∃ reason, s = .stopping held reason

theorem Keeps.not_powerless {identity : String} {s : Stage τ} {held : Held τ}
    (kept : Keeps identity s signal held) (goesOn : ∀ held reason, s ≠ .stopping held reason) :
    ¬ Powerless identity s signal := by
  intro powerless
  obtain ⟨reason, stopping⟩ := powerless held kept
  exact goesOn held reason stopping

theorem exists_claim {identity : String} {s : Stage τ} (powerful : ¬ Powerless identity s signal) :
    ∃ held, Keeps identity s signal held ∧ ∀ other reason, s ≠ .stopping other reason := by
  obtain ⟨held, going⟩ := Classical.not_forall.mp powerful
  obtain ⟨kept, going⟩ := Classical.not_imp.mp going
  refine ⟨held, kept, ?_⟩
  rintro other reason rfl
  cases kept
  exact going ⟨reason, rfl⟩

theorem not_powerless_of_leads {identity : String} {s : Stage τ} {held : Held τ}
    (leads : s.held? = some held) : ¬ Powerless identity s signal := by
  cases s with
  | holding held next => exact Keeps.holding.not_powerless (by simp)
  | renewing held record started =>
      by_cases written : ∃ token, signal = .answered (.written token)
      · obtain ⟨token, rfl⟩ := written
        exact Keeps.renewed.not_powerless (by simp)
      · exact (Keeps.unrenewed fun token same => written ⟨token, same⟩).not_powerless (by simp)
  | rereading held => exact Keeps.unrefreshed.not_powerless (by simp)
  | _ => cases leads

theorem Begins.modest (begins : e.Begins t) (modest : (Turn.mk e []).Modest) : t.Modest := by
  cases begins with
  | plain => exact modest
  | abandoning => exact modest.emit .abandon id

/-- A participant that does not lead comes to lead only by a claim. -/
theorem step_modest [DecidableEq τ] (resigned : ¬ e.status.phase.Leads)
    (powerless : Powerless c.identity e.stage signal) : (e.step c m signal).Modest := by
  have modest : (Turn.mk e []).Modest := ⟨resigned, by simp⟩
  have reacts := step_reacts c m e signal
  generalize e.stage = s at powerless reacts
  generalize e.step c m signal = t at reacts ⊢
  cases reacts with
  | ignores => exact modest
  | starts =>
      have cleared : (Turn.mk e.cleared []).Modest := ⟨modest.phase, modest.effects⟩
      exact attempt_modest (cleared.enter .acquiring (by decide))
  | withdraws begins => exact finish_modest (begins.modest modest) _
  | retries => exact attempt_modest modest
  | rests begins => exact rest_modest (begins.modest modest)
  | considers => exact consider_modest modest _ _
  | founds => exact claim_modest modest _ _ _
  | released => exact finish_modest (modest.follow none) _
  | goesUnreleased begins =>
      have counted := (begins.modest modest).emit (.count .releaseFailures) id
      exact finish_modest (counted.emit (.log (.warn _)) id) _
  | @notes _ panicked =>
      exact (⟨modest.phase, modest.effects⟩ : (Turn.mk { e with work := .ended panicked } []).Modest)
  | @stepsDown _ _ panicked =>
      have finished : (Turn.mk { e with work := .ended panicked } []).Modest :=
        ⟨modest.phase, modest.effects⟩
      exact stepDown_modest finished _ _
  | acquires => exact absurd powerless (Keeps.claimed.not_powerless (by simp))
  | quits begins leads | expires begins leads =>
      exact absurd powerless (not_powerless_of_leads leads)
  | renews | goesUnrenewed | renewed | fails | reconsiders | resumes =>
      exact absurd powerless (not_powerless_of_leads rfl)

end Elector

end LeaseElection
