import LeaseElection.Elector.Step

namespace LeaseElection

def Effect.call? : Effect τ → Option (StoreCall τ)
  | .call begun => some begun
  | _ => none

def Effect.outcome? : Effect τ → Option ElectionOutcome
  | .returned outcome => some outcome
  | _ => none

namespace Turn

def calls (t : Turn τ) : List (StoreCall τ) := t.effects.filterMap Effect.call?

def outcomes (t : Turn τ) : List ElectionOutcome := t.effects.filterMap Effect.outcome?

theorem mem_outcomes {t : Turn τ} {outcome : ElectionOutcome} :
    outcome ∈ t.outcomes ↔ .returned outcome ∈ t.effects := by
  simp only [outcomes, List.mem_filterMap]
  constructor
  · rintro ⟨effect, among, same⟩
    cases effect with
    | returned returned =>
        cases same
        exact among
    | _ => cases same
  · exact fun among => ⟨_, among, rfl⟩

@[simp] theorem calls_withElector (t : Turn τ) (elector : Elector τ) :
    (Turn.mk elector t.effects).calls = t.calls := rfl

@[simp] theorem calls_nil (elector : Elector τ) : (Turn.mk elector []).calls = [] := rfl

@[simp] theorem outcomes_withElector (t : Turn τ) (elector : Elector τ) :
    (Turn.mk elector t.effects).outcomes = t.outcomes := rfl

@[simp] theorem outcomes_nil (elector : Elector τ) : (Turn.mk elector []).outcomes = [] := rfl

@[simp] theorem emit_elector (t : Turn τ) (effect : Effect τ) :
    (t.emit effect).elector = t.elector := rfl

@[simp] theorem emit_calls (t : Turn τ) (effect : Effect τ) :
    (t.emit effect).calls = t.calls ++ effect.call?.toList := by
  cases effect <;> simp [calls, emit, Effect.call?]

@[simp] theorem emit_outcomes (t : Turn τ) (effect : Effect τ) :
    (t.emit effect).outcomes = t.outcomes ++ effect.outcome?.toList := by
  cases effect <;> simp [outcomes, emit, Effect.outcome?]

@[simp] theorem become_elector (t : Turn τ) (stage : Stage τ) :
    (t.become stage).elector = { t.elector with stage } := rfl

@[simp] theorem become_calls (t : Turn τ) (stage : Stage τ) :
    (t.become stage).calls = t.calls := rfl

@[simp] theorem become_outcomes (t : Turn τ) (stage : Stage τ) :
    (t.become stage).outcomes = t.outcomes := rfl

@[simp] theorem publish_stage (t : Turn τ) (status : ElectionStatus) :
    (t.publish status).elector.stage = t.elector.stage := by
  unfold publish
  split <;> rfl

@[simp] theorem publish_sighting (t : Turn τ) (status : ElectionStatus) :
    (t.publish status).elector.sighting = t.elector.sighting := by
  unfold publish
  split <;> rfl

@[simp] theorem publish_work (t : Turn τ) (status : ElectionStatus) :
    (t.publish status).elector.work = t.elector.work := by
  unfold publish
  split <;> rfl

@[simp] theorem publish_lastReported (t : Turn τ) (status : ElectionStatus) :
    (t.publish status).elector.lastReported = t.elector.lastReported := by
  unfold publish
  split <;> rfl

/-- Whether or not the status is published anew, it is the published one afterwards. -/
@[simp] theorem publish_status (t : Turn τ) (status : ElectionStatus) :
    (t.publish status).elector.status = status := by
  unfold publish
  split
  · assumption
  · rfl

@[simp] theorem publish_calls (t : Turn τ) (status : ElectionStatus) :
    (t.publish status).calls = t.calls := by
  unfold publish
  split
  · rfl
  · simp [calls, Effect.call?]

@[simp] theorem publish_outcomes (t : Turn τ) (status : ElectionStatus) :
    (t.publish status).outcomes = t.outcomes := by
  unfold publish
  split
  · rfl
  · simp [outcomes, Effect.outcome?]

@[simp] theorem enter_sighting (t : Turn τ) (phase : ElectionPhase) :
    (t.enter phase).elector.sighting = t.elector.sighting := publish_sighting t _

@[simp] theorem enter_work (t : Turn τ) (phase : ElectionPhase) :
    (t.enter phase).elector.work = t.elector.work := publish_work t _

@[simp] theorem enter_lastReported (t : Turn τ) (phase : ElectionPhase) :
    (t.enter phase).elector.lastReported = t.elector.lastReported := publish_lastReported t _

@[simp] theorem enter_status (t : Turn τ) (phase : ElectionPhase) :
    (t.enter phase).elector.status = { t.elector.status with phase } := publish_status t _

@[simp] theorem enter_calls (t : Turn τ) (phase : ElectionPhase) :
    (t.enter phase).calls = t.calls := publish_calls t _

@[simp] theorem enter_outcomes (t : Turn τ) (phase : ElectionPhase) :
    (t.enter phase).outcomes = t.outcomes := publish_outcomes t _

@[simp] theorem follow_stage (t : Turn τ) (leader : Option String) :
    (t.follow leader).elector.stage = t.elector.stage := publish_stage t _

@[simp] theorem follow_sighting (t : Turn τ) (leader : Option String) :
    (t.follow leader).elector.sighting = t.elector.sighting := publish_sighting t _

@[simp] theorem follow_work (t : Turn τ) (leader : Option String) :
    (t.follow leader).elector.work = t.elector.work := publish_work t _

@[simp] theorem follow_lastReported (t : Turn τ) (leader : Option String) :
    (t.follow leader).elector.lastReported = t.elector.lastReported := publish_lastReported t _

@[simp] theorem follow_status (t : Turn τ) (leader : Option String) :
    (t.follow leader).elector.status = { t.elector.status with leader } := publish_status t _

@[simp] theorem follow_calls (t : Turn τ) (leader : Option String) :
    (t.follow leader).calls = t.calls := publish_calls t _

@[simp] theorem follow_outcomes (t : Turn τ) (leader : Option String) :
    (t.follow leader).outcomes = t.outcomes := publish_outcomes t _

@[simp] theorem report_stage (t : Turn τ) (leader : String) :
    (t.report leader).elector.stage = t.elector.stage := by
  unfold report
  split <;> rfl

@[simp] theorem report_sighting (t : Turn τ) (leader : String) :
    (t.report leader).elector.sighting = t.elector.sighting := by
  unfold report
  split <;> rfl

@[simp] theorem report_work (t : Turn τ) (leader : String) :
    (t.report leader).elector.work = t.elector.work := by
  unfold report
  split <;> rfl

@[simp] theorem report_status (t : Turn τ) (leader : String) :
    (t.report leader).elector.status = t.elector.status := by
  unfold report
  split <;> rfl

@[simp] theorem report_calls (t : Turn τ) (leader : String) :
    (t.report leader).calls = t.calls := by
  unfold report
  split
  · rfl
  · simp [Effect.call?]

@[simp] theorem report_outcomes (t : Turn τ) (leader : String) :
    (t.report leader).outcomes = t.outcomes := by
  unfold report
  split
  · rfl
  · simp [Effect.outcome?]

end Turn

end LeaseElection
