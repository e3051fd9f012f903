import LeaseElection.Proofs.Elector.Frame

namespace LeaseElection

variable {σ τ : Type} (f : σ → τ)

def Versioned.rename (current : Versioned σ) : Versioned τ := ⟨current.record, f current.token⟩

def StoreCall.rename : StoreCall σ → StoreCall τ
  | .get => .get
  | .create record => .create record
  | .update record token => .update record (f token)

def Held.rename (held : Held σ) : Held τ := ⟨held.record, f held.token, held.stamped⟩

def Sighting.rename (s : Sighting σ) : Sighting τ := ⟨f s.token, s.since⟩

def Stage.rename : Stage σ → Stage τ
  | .idle => .idle
  | .reading deadline => .reading deadline
  | .claiming deadline record stamped => .claiming deadline record stamped
  | .waiting next => .waiting next
  | .holding held next => .holding (held.rename f) next
  | .renewing held record started => .renewing (held.rename f) record started
  | .rereading held => .rereading (held.rename f)
  | .stopping held reason => .stopping (held.rename f) reason
  | .releasing deadline => .releasing deadline

def Elector.rename (e : Elector σ) : Elector τ :=
  ⟨e.status, e.sighting.map (Sighting.rename f), e.lastReported, e.work, e.stage.rename f⟩

def Effect.rename : Effect σ → Effect τ
  | .call begun => .call (begun.rename f)
  | .abandon => .abandon
  | .publish status => .publish status
  | .hook called => .hook called
  | .cancelWork => .cancelWork
  | .log line => .log line
  | .count metric => .count metric
  | .gauge leading => .gauge leading
  | .returned outcome => .returned outcome

def Turn.rename (t : Turn σ) : Turn τ := ⟨t.elector.rename f, t.effects.map (Effect.rename f)⟩

/-- Whether two errors are the same, up to what a conflict calls the token. -/
inductive StoreError.Alike : StoreError → StoreError → Prop
  | same : Alike error error
  | conflict : Alike (.conflict key token) (.conflict key other)

/-- Whether an answer is another one with its tokens renamed. -/
inductive StoreAnswer.Renames : StoreAnswer σ → StoreAnswer τ → Prop
  | found (current : Versioned σ) : Renames (.found current) (.found (current.rename f))
  | written (token : σ) : Renames (.written token) (.written (f token))
  | failed {error other : StoreError} (alike : error.Alike other) :
      Renames (.failed error) (.failed other)

/-- Whether a signal is another one with its tokens renamed. -/
inductive Signal.Renames : Signal σ → Signal τ → Prop
  | start : Renames .start .start
  | cancelled : Renames .cancelled .cancelled
  | answered {answer : StoreAnswer σ} {other : StoreAnswer τ} (renames : answer.Renames f other) :
      Renames (.answered answer) (.answered other)
  | timer : Renames .timer .timer
  | workEnded (panicked : Bool) : Renames (.workEnded panicked) (.workEnded panicked)

theorem StoreError.Alike.isNotFound {error other : StoreError} (alike : error.Alike other) :
    other.IsNotFound ↔ error.IsNotFound := by
  cases alike <;> rfl

theorem StoreError.Alike.isConflict {error other : StoreError} (alike : error.Alike other) :
    other.IsConflict ↔ error.IsConflict := by
  cases alike <;> rfl

@[simp] theorem Versioned.rename_record (current : Versioned σ) :
    (current.rename f).record = current.record := rfl

namespace Turn

variable {f} (t : Turn σ)

@[simp] theorem rename_identity : (t.rename f).identity = t.identity := rfl

@[simp] theorem rename_status : (t.rename f).elector.status = t.elector.status := rfl

@[simp] theorem rename_lastReported :
    (t.rename f).elector.lastReported = t.elector.lastReported := rfl

@[simp] theorem rename_work : (t.rename f).elector.work = t.elector.work := rfl

@[simp] theorem emit_rename (effect : Effect σ) :
    (t.emit effect).rename f = (t.rename f).emit (effect.rename f) := by
  simp [rename, emit]

@[simp] theorem become_rename (stage : Stage σ) :
    (t.become stage).rename f = (t.rename f).become (stage.rename f) := rfl

@[simp] theorem withWork_rename (work : WorkState) :
    (Turn.mk { t.elector with work } t.effects).rename f =
      ⟨{ (t.rename f).elector with work }, (t.rename f).effects⟩ := rfl

@[simp] theorem withReport_rename (lastReported : Option String) :
    (Turn.mk { t.elector with lastReported } t.effects).rename f =
      ⟨{ (t.rename f).elector with lastReported }, (t.rename f).effects⟩ := rfl

@[simp] theorem withSighting_rename (sighting : Option (Sighting σ)) :
    (Turn.mk { t.elector with sighting } t.effects).rename f =
      ⟨{ (t.rename f).elector with sighting := sighting.map (Sighting.rename f) },
        (t.rename f).effects⟩ := rfl

@[simp] theorem publish_rename (status : ElectionStatus) :
    (t.publish status).rename f = (t.rename f).publish status := by
  by_cases same : t.elector.status = status
  · simp [publish, same]
  · simp [publish, same, rename, Elector.rename, Effect.rename]

@[simp] theorem enter_rename (phase : ElectionPhase) :
    (t.enter phase).rename f = (t.rename f).enter phase := t.publish_rename _

@[simp] theorem follow_rename (leader : Option String) :
    (t.follow leader).rename f = (t.rename f).follow leader := t.publish_rename _

@[simp] theorem report_rename (leader : String) :
    (t.report leader).rename f = (t.rename f).report leader := by
  by_cases known : leader = "" ∨ leader = t.identity ∨ t.elector.lastReported = some leader
  · simp [report, known]
  · have unknown : ¬ (leader = "" ∨ leader = (t.rename f).identity ∨
        (t.rename f).elector.lastReported = some leader) := known
    simp only [report, if_neg known, if_neg unknown, emit_rename, withReport_rename, Effect.rename]

end Turn

namespace Elector

variable {f} (c : ElectionConfig) (m : Moment) (t : Turn σ) (held : Held σ)

@[simp] theorem renewBy_rename : renewBy c (held.rename f) = renewBy c held := rfl

@[simp] theorem finish_rename (outcome : ElectionOutcome) :
    (finish t outcome).rename f = finish (t.rename f) outcome := by
  simp [finish, Stage.rename, Effect.rename]

@[simp] theorem depart_rename :
    (depart c m t held).rename f = depart c m (t.rename f) (held.rename f) := by
  unfold depart
  split
  · simp [release, Stage.rename, Effect.rename, StoreCall.rename, Held.rename]
  · exact finish_rename t .cancelled

@[simp] theorem stepDown_rename (reason : StopReason) (panicked : Bool) :
    (stepDown c m t held reason panicked).rename f =
      stepDown c m (t.rename f) (held.rename f) reason panicked := by
  unfold stepDown
  cases reason with
  | cancelled => cases panicked <;> simp [Effect.rename]
  | lost successor => cases successor <;> cases panicked <;> simp [Effect.rename]

@[simp] theorem stop_rename (reason : StopReason) :
    (stop c m t held reason).rename f = stop c m (t.rename f) (held.rename f) reason := by
  have work : (((t.rename f).enter .releasing).emit .cancelWork).elector.work =
      ((t.enter .releasing).emit .cancelWork).elector.work := by
    rw [show (Effect.cancelWork : Effect τ) = Effect.cancelWork.rename f from rfl]
    rw [← Turn.enter_rename, ← Turn.emit_rename]
    rfl
  unfold stop
  dsimp only
  rw [work]
  split <;> simp [Stage.rename, Effect.rename]

@[simp] theorem hold_rename :
    (hold c m t held).rename f = hold c m (t.rename f) (held.rename f) := by
  unfold hold
  rw [renewBy_rename]
  split
  · simp
  · split
    · simp [Effect.rename]
    · simp [Stage.rename]

@[simp] theorem renew_rename :
    (renew c m t held).rename f = renew c m (t.rename f) (held.rename f) := by
  simp [renew, Stage.rename, Effect.rename, StoreCall.rename, Held.rename]

@[simp] theorem reread_rename :
    (reread c m t held).rename f = reread c m (t.rename f) (held.rename f) := by
  unfold reread
  split
  · simp
  · simp [Stage.rename, Effect.rename, StoreCall.rename]

@[simp] theorem renewalFailed_rename (stale : Bool) :
    (renewalFailed c m t held stale).rename f =
      renewalFailed c m (t.rename f) (held.rename f) stale := by
  unfold renewalFailed
  dsimp only
  split <;> simp [Effect.rename]

@[simp] theorem reconsider_rename (current : Versioned σ) :
    (reconsider c m t held current).rename f =
      reconsider c m (t.rename f) (held.rename f) (current.rename f) := by
  by_cases own : current.record.IsHeldBy t.identity
  · simp [reconsider, own, Held.rename, Versioned.rename]
  · simp [reconsider, own, Effect.rename, Versioned.rename]
    rfl

@[simp] theorem lead_rename :
    (lead c m t held).rename f = lead c m (t.rename f) (held.rename f) := by
  simp only [lead, hold_rename, Turn.withWork_rename, Turn.emit_rename, Turn.enter_rename,
    Effect.rename]

@[simp] theorem attempt_rename : (attempt c m t).rename f = attempt c m (t.rename f) := by
  unfold attempt
  split <;> simp [Stage.rename, Effect.rename, StoreCall.rename]

@[simp] theorem rest_rename : (rest c m t).rename f = rest c m (t.rename f) := by
  unfold rest
  split <;> simp [Stage.rename]

@[simp] theorem claim_rename (deadline : Nat) (record : LeaseRecord) (call : StoreCall σ) :
    (claim m t deadline record call).rename f =
      claim m (t.rename f) deadline record (call.rename f) := by
  unfold claim
  split <;> simp [Stage.rename, Effect.rename]

@[simp] theorem found_rename (deadline : Nat) :
    (found c m t deadline).rename f = found c m (t.rename f) deadline := by
  simp [found, StoreCall.rename]

@[simp] theorem acquired_rename :
    (acquired c m t held).rename f = acquired c m (t.rename f) (held.rename f) := by
  unfold acquired
  dsimp only
  split
  · split <;> simp only [depart_rename, Turn.enter_rename, Turn.emit_rename, Turn.follow_rename,
      Turn.withReport_rename, Effect.rename] <;> rfl
  · simp only [lead_rename, Turn.follow_rename, Turn.emit_rename, Turn.withReport_rename,
      Effect.rename]
    rfl

theorem isClaimable_rename (e : Elector σ) (record : LeaseRecord) :
    IsClaimable m (e.rename f) record ↔ IsClaimable m e record := by
  have stale : IsStale m (e.rename f) record ↔ IsStale m e record := by
    simp only [IsStale, rename]
    cases e.sighting <;> rfl
  exact or_congr_right (or_congr_right (or_congr_right stale))

section Comparing

variable [DecidableEq σ] [DecidableEq τ] (injective : Function.Injective f)

include injective

/-- A token is the one that was seen last under both names or under neither. -/
theorem noted_rename (last : Option (Sighting σ)) (current : Versioned σ) :
    (noted m last current).rename f =
      noted m (last.map (Sighting.rename f)) (current.rename f) := by
  cases last with
  | none => rfl
  | some s =>
      have same : (s.rename f).token = (current.rename f).token ↔ s.token = current.token :=
        ⟨fun same => injective same, congrArg f⟩
      simp only [noted, Option.map_some, same]
      split <;> rfl

theorem observe_rename (current : Versioned σ) :
    (observe m t current).rename f = observe m (t.rename f) (current.rename f) := by
  simp only [observe, Versioned.rename_record, apply_ite (Turn.rename f), Turn.follow_rename,
    Turn.report_rename, Turn.withSighting_rename, Option.map_some, noted_rename m injective]
  rfl

theorem consider_rename (deadline : Nat) (current : Versioned σ) :
    (consider c m t deadline current).rename f =
      consider c m (t.rename f) deadline (current.rename f) := by
  have claimable : IsClaimable m ((observe m t current).rename f).elector current.record ↔
      IsClaimable m (observe m t current).elector current.record := isClaimable_rename ..
  simp only [consider, Versioned.rename_record, ← observe_rename m t injective, claimable,
    Turn.rename_identity]
  split
  · exact claim_rename ..
  · exact rest_rename ..

end Comparing

section Reacting

variable (e : Elector σ)

theorem alarm_rename : (e.rename f).alarm? c = e.alarm? c := by
  unfold alarm? rename
  cases e.stage <;> rfl

theorem heedsCancel_rename : (e.rename f).stage.HeedsCancel ↔ e.stage.HeedsCancel := by
  unfold rename
  cases e.stage <;> rfl

theorem onStart_rename : (onStart c m e).rename f = onStart c m (e.rename f) := by
  obtain ⟨status, sighting, lastReported, work, stage⟩ := e
  cases stage with
  | idle =>
      simp only [onStart, attempt_rename, Turn.enter_rename]
      rfl
  | _ => rfl

theorem onCancelled_rename : (onCancelled c m e).rename f = onCancelled c m (e.rename f) := by
  obtain ⟨status, sighting, lastReported, work, stage⟩ := e
  cases stage with
  | reading deadline | claiming deadline record stamped | waiting next =>
      exact finish_rename ..
  | holding held next | renewing held record started | rereading held =>
      exact stop_rename ..
  | idle | stopping held reason | releasing deadline => rfl

theorem onTimer_rename : (onTimer c m e).rename f = onTimer c m (e.rename f) := by
  obtain ⟨status, sighting, lastReported, work, stage⟩ := e
  cases stage with
  | reading deadline | claiming deadline record stamped => exact rest_rename ..
  | waiting next => exact attempt_rename ..
  | holding held next =>
      by_cases late : renewBy c held ≤ m.now
      · simp only [onTimer, if_pos late]
        exact (hold_rename ..).trans (if_pos late).symm
      · simp only [onTimer, if_neg late]
        exact (renew_rename ..).trans (if_neg late).symm
  | renewing held record started => exact renewalFailed_rename ..
  | rereading held => exact hold_rename ..
  | releasing deadline => exact finish_rename ..
  | idle | stopping held reason => rfl

theorem onWorkEnded_rename (panicked : Bool) :
    (onWorkEnded c m e panicked).rename f = onWorkEnded c m (e.rename f) panicked := by
  obtain ⟨status, sighting, lastReported, work, stage⟩ := e
  cases stage with
  | stopping held reason => exact stepDown_rename ..
  | _ => rfl

variable [DecidableEq σ] [DecidableEq τ]

theorem onAnswer_rename (injective : Function.Injective f) {answer : StoreAnswer σ}
    {other : StoreAnswer τ} (renames : answer.Renames f other) :
    (onAnswer c m e answer).rename f = onAnswer c m (e.rename f) other := by
  obtain ⟨status, sighting, lastReported, work, stage⟩ := e
  cases stage with
  | reading deadline =>
      cases renames with
      | found current => exact consider_rename c m _ injective deadline current
      | written token => rfl
      | failed alike =>
          simp only [onAnswer, rename, Stage.rename, alike.isNotFound]
          split
          · exact found_rename ..
          · exact rest_rename ..
  | claiming deadline record stamped =>
      cases renames with
      | found current => rfl
      | written token => exact acquired_rename ..
      | failed alike => exact rest_rename ..
  | renewing held record started =>
      cases renames with
      | found current => rfl
      | written token =>
          refine (hold_rename ..).trans ?_
          rw [Turn.enter_rename]
          rfl
      | failed alike =>
          simp only [onAnswer, rename, Stage.rename, alike.isConflict]
          exact renewalFailed_rename ..
  | rereading held =>
      cases renames with
      | found current => exact reconsider_rename ..
      | written token => rfl
      | failed alike => exact hold_rename ..
  | releasing deadline =>
      cases renames with
      | found current => rfl
      | written token =>
          refine (finish_rename ..).trans ?_
          rw [Turn.follow_rename]
          rfl
      | failed alike => exact finish_rename ..
  | idle | waiting next | holding held next | stopping held reason =>
      cases renames <;> rfl

/-- Whatever a participant is told, it does the same under other names. -/
theorem step_rename (injective : Function.Injective f) {signal : Signal σ} {other : Signal τ}
    (renames : signal.Renames f other) :
    (e.step c m signal).rename f = (e.rename f).step c m other := by
  cases renames with
  | start => exact onStart_rename ..
  | cancelled => exact onCancelled_rename ..
  | answered renames => exact onAnswer_rename c m e injective renames
  | timer =>
      simp only [step, alarm_rename, heedsCancel_rename]
      split
      · split
        · rfl
        · split
          · exact onCancelled_rename ..
          · exact onTimer_rename ..
      · rfl
  | workEnded panicked =>
      have work : (e.rename f).work = e.work := rfl
      simp only [step, work]
      split
      · exact onWorkEnded_rename ..
      · rfl

end Reacting

end Elector

end LeaseElection
