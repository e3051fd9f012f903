import LeaseElection.Proofs.Course.Instants

namespace LeaseElection

namespace Elector

variable {τ : Type} {c : ElectionConfig} {m : Moment} {t : Turn τ} {held : Held τ}

theorem finish_idle (idle : t.elector.work ≠ .running) (outcome : ElectionOutcome) :
    (finish t outcome).elector.work ≠ .running := by
  simpa [finish] using idle

theorem depart_idle (idle : t.elector.work ≠ .running) :
    (depart c m t held).elector.work ≠ .running := by
  unfold depart
  split
  · exact idle
  · exact finish_idle idle _

theorem stepDown_idle (reason : StopReason) (panicked : Bool) :
    (stepDown c m t held reason panicked).elector.work ≠ .running := by
  cases reason with
  | cancelled =>
      apply depart_idle
      cases panicked <;> simp
  | lost successor =>
      apply finish_idle
      cases successor <;> cases panicked <;> simp

theorem stop_idle (idle : t.elector.work ≠ .running) (reason : StopReason) :
    (stop c m t held reason).elector.work ≠ .running := by
  have quit : ((t.enter .releasing).emit .cancelWork).elector.work ≠ .running := by simpa using idle
  unfold stop
  dsimp only
  split
  · exact stepDown_idle _ _
  · exact quit
  · exact quit

theorem hold_idle (idle : t.elector.work ≠ .running) :
    (hold c m t held).elector.work ≠ .running := by
  unfold hold
  split
  · exact stop_idle idle _
  · split
    · exact stop_idle (t := t.emit _) idle _
    · exact idle

theorem renewalFailed_idle (idle : t.elector.work ≠ .running) (stale : Bool) :
    (renewalFailed c m t held stale).elector.work ≠ .running := by
  unfold renewalFailed reread
  split
  · split
    · exact stop_idle (t := t.emit _) idle _
    · exact idle
  · exact hold_idle (t := t.emit _) idle

theorem reconsider_idle (idle : t.elector.work ≠ .running) (current : Versioned τ) :
    (reconsider c m t held current).elector.work ≠ .running := by
  unfold reconsider
  split
  · exact hold_idle idle
  · exact stop_idle (t := t.emit _) idle _

theorem attempt_idle (idle : t.elector.work ≠ .running) :
    (attempt c m t).elector.work ≠ .running := by
  unfold attempt
  split
  · exact finish_idle idle _
  · exact idle

theorem rest_idle (idle : t.elector.work ≠ .running) : (rest c m t).elector.work ≠ .running := by
  unfold rest
  split
  · exact finish_idle idle _
  · exact idle

theorem claim_idle (idle : t.elector.work ≠ .running) (deadline : Nat) (record : LeaseRecord)
    (call : StoreCall τ) : (claim m t deadline record call).elector.work ≠ .running := by
  unfold claim
  split
  · exact finish_idle idle _
  · exact idle

theorem consider_idle [DecidableEq τ] (idle : t.elector.work ≠ .running) (deadline : Nat)
    (current : Versioned τ) : (consider c m t deadline current).elector.work ≠ .running := by
  have observed : (observe m t current).elector.work ≠ .running := by
    unfold observe
    dsimp only
    split
    · simpa using idle
    · split <;> simpa using idle
  unfold consider
  dsimp only
  split
  · exact claim_idle observed _ _ _
  · exact rest_idle observed

theorem mem_enter {effect : Effect τ} (among : effect ∈ t.effects) (phase : ElectionPhase) :
    effect ∈ (t.enter phase).effects := by
  unfold Turn.enter Turn.publish
  split
  · exact among
  · exact List.mem_append_left _ among

theorem mem_stop_of_running {effect : Effect τ} (running : t.elector.work = .running)
    (among : effect ∈ t.effects) (reason : StopReason) :
    effect ∈ (stop c m t held reason).effects := by
  have quit : ((t.enter .releasing).emit .cancelWork).elector.work = .running := by
    simpa using running
  simp only [stop, quit]
  exact List.mem_append_left _ (mem_enter among _)

theorem mem_hold_of_running {effect : Effect τ} (running : t.elector.work = .running)
    (among : effect ∈ t.effects) : effect ∈ (hold c m t held).effects := by
  unfold hold
  split
  · exact mem_stop_of_running running among _
  · split
    · exact mem_stop_of_running (t := t.emit _) running (List.mem_append_left _ among) _
    · exact among

theorem lead_starts : .hook (.started false) ∈ (lead c m t held).effects := by
  unfold lead
  exact mem_hold_of_running rfl (List.mem_append_right _ (List.mem_singleton.mpr rfl))

/-- A workload that an elected participant engages is one that it is shown to start. -/
theorem acquired_starts (idle : t.elector.work ≠ .running)
    (running : (acquired c m t held).elector.work = .running) :
    .hook (.started false) ∈ (acquired c m t held).effects := by
  cases cancelled : m.cancelled with
  | false =>
      simp only [acquired, cancelled, Bool.false_eq_true, if_false]
      exact lead_starts
  | true =>
      simp only [acquired, cancelled, if_true] at running
      refine absurd running (depart_idle ?_)
      split <;> simpa using idle

/-- A workload that runs ran before and did not end, or was just engaged by who was elected. -/
theorem step_working [DecidableEq τ] {e : Elector τ} {signal : Signal τ}
    (running : (e.step c m signal).elector.work = .running) :
    (e.work = .running ∧ ∀ panicked, signal ≠ .workEnded panicked) ∨
      (∃ deadline record stamped token, e.stage = .claiming deadline record stamped ∧
        signal = .answered (.written token) ∧
          .hook (.started false) ∈ (e.step c m signal).effects) := by
  by_cases engaged : e.work = .running ∧ ∀ panicked, signal ≠ .workEnded panicked
  · exact .inl engaged
  right
  have reacts := step_reacts c m e signal
  generalize stage : e.stage = s at reacts
  generalize e.step c m signal = t at reacts running ⊢
  have idle (going : ∀ panicked, signal ≠ .workEnded panicked) : e.work ≠ .running :=
    fun working => engaged ⟨working, going⟩
  cases reacts with
  | acquires => exact ⟨_, _, _, _, rfl, rfl, acquired_starts (idle (by simp)) running⟩
  | ignores ignores =>
      cases signal with
      | workEnded panicked => exact absurd running ignores
      | _ => exact absurd running (idle (by simp))
  | starts => exact absurd running (attempt_idle (by simp [cleared]))
  | withdraws begins seeks cancels =>
      exact absurd running (finish_idle (begins.elector ▸ idle cancels.going) _)
  | quits begins leads cancels =>
      exact absurd running (stop_idle (begins.elector ▸ idle cancels.going) _)
  | retries => exact absurd running (attempt_idle (idle (by simp)))
  | rests begins seeks fails =>
      exact absurd running (rest_idle (begins.elector ▸ idle fails.going))
  | considers => exact absurd running (consider_idle (idle (by simp)) _ _)
  | founds => exact absurd running (claim_idle (idle (by simp)) _ _ _)
  | renews => exact absurd running (by simpa [renew] using idle (by simp))
  | expires begins =>
      exact absurd running (hold_idle (begins.elector ▸ idle (by simp)))
  | goesUnrenewed =>
      refine absurd running (renewalFailed_idle ?_ _)
      exact idle (by simp)
  | renewed => exact absurd running (hold_idle (by simpa using idle (by simp)))
  | fails => exact absurd running (renewalFailed_idle (idle (by simp)) _)
  | reconsiders => exact absurd running (reconsider_idle (idle (by simp)) _)
  | resumes => exact absurd running (hold_idle (idle (by simp)))
  | released => exact absurd running (finish_idle (by simpa using idle (by simp)) _)
  | goesUnreleased begins text fails =>
      exact absurd running (finish_idle (begins.elector ▸ idle fails.going) _)
  | notes => cases running
  | stepsDown => exact absurd running (stepDown_idle _ _)

end Elector

/-- The trace shows that the workload was started, and that it did not end since. -/
structure Trace.Works (past : Trace τ) : Prop where
  started : Saw Event.starts past
  going : ¬ Saw Event.endsWork past

theorem Lawful.ended_of_stopped {c : ElectionConfig} {past : Trace τ} (lawful : Lawful c past)
    (stopped : (account c.identity past).stopped = true) :
    (account c.identity past).workEnded = true := by
  induction past with
  | nil => cases stopped
  | cons event past ih =>
      rw [account_cons, Account.note, Bool.or_eq_true] at stopped ⊢
      rcases stopped with before | now
      · exact .inl (ih lawful.2 before)
      · have licit := lawful.1
        unfold Event.stops at now
        split at now
        · exact .inl licit.2.2.2
        · cases now

namespace Course

variable {τ : Type} {c : ElectionConfig} {pace : Pace} {k : Course τ}

/-- What is known of the workload: it runs only where the trace shows that, and only a workload that
was started ends. -/
structure Employs (k : Course τ) : Prop where
  works : k.elector.work = .running → Trace.Works k.trace
  started : Trace.Saw Event.endsWork k.trace → Trace.Saw Event.starts k.trace

/-- Where leading has stopped, the workload is over. -/
theorem Employs.idle_of_stopped (employs : k.Employs) (orderly : k.Orderly c)
    (stopped : (account c.identity k.trace).started = true →
      (account c.identity k.trace).stopped = true) : k.elector.work ≠ .running := by
  intro running
  obtain ⟨started, going⟩ := employs.works running
  have quit := stopped ((account_started c.identity k.trace).mpr started)
  have ended := orderly.lawful.ended_of_stopped quit
  exact going ((account_workEnded c.identity k.trace).mp ended)

variable [DecidableEq τ] {wall : Instant} {signal : Signal τ}

theorem trace_hear : (k.hear c wall signal).trace =
    ((k.turn c wall signal).effects.map .did).reverse ++
      .told (k.moment wall) signal :: k.trace := Turn.trace_eq _ _

theorem saw_hear (kind : Event τ → Bool) : Trace.Saw kind (k.hear c wall signal).trace ↔
    (∃ effect ∈ (k.turn c wall signal).effects, kind (.did effect) = true) ∨
      kind (.told (k.moment wall) signal) = true ∨ Trace.Saw kind k.trace := by
  simp only [Trace.Saw, trace_hear, List.mem_append, List.mem_reverse, List.mem_map, List.mem_cons,
    or_and_right, exists_or, exists_eq_left]
  refine or_congr_left ⟨?_, ?_⟩
  · rintro ⟨_, ⟨effect, among, rfl⟩, shown⟩
    exact ⟨effect, among, shown⟩
  · rintro ⟨effect, among, shown⟩
    exact ⟨_, ⟨effect, among, rfl⟩, shown⟩

theorem Employs.hear (employs : k.Employs) (orderly : k.Orderly c)
    (working : ∀ panicked, signal = .workEnded panicked → k.elector.work = .running) :
    (k.hear c wall signal).Employs where
  works := by
    intro running
    rcases Elector.step_working running with ⟨before, going⟩ | ⟨_, _, _, _, claiming, written, starts⟩
    · obtain ⟨started, unended⟩ := employs.works before
      refine ⟨(saw_hear _).mpr (.inr (.inr started)), ?_⟩
      rw [saw_hear]
      rintro (⟨effect, -, ⟨⟩⟩ | ended | ended)
      · cases signal with
        | workEnded panicked => exact going panicked rfl
        | _ => cases ended
      · exact unended ended
    · have fits := orderly.fits
      rw [claiming] at fits
      refine ⟨(saw_hear _).mpr (.inl ⟨_, starts, rfl⟩), ?_⟩
      rw [saw_hear]
      rintro (⟨effect, -, ⟨⟩⟩ | ended | ended)
      · subst written
        cases ended
      · have started := (account_started c.identity k.trace).mpr (employs.started ended)
        cases started.symm.trans fits.1.started
  started := by
    rw [saw_hear, saw_hear]
    rintro (⟨effect, -, ⟨⟩⟩ | ended | ended)
    · cases signal with
      | workEnded panicked => exact .inr (.inr (employs.works (working panicked rfl)).started)
      | _ => cases ended
    · exact .inr (.inr (employs.started ended))

theorem Reachable.employs (reachable : Reachable c pace k) : k.Employs := by
  have fresh (now : Nat) : (Course.initial c now : Course τ).Employs :=
    ⟨nofun, fun ⟨_, among, _⟩ => absurd among List.not_mem_nil⟩
  induction reachable with
  | initial now => exact fresh now
  | @step k next reachable step ih =>
      have orderly := reachable.orderly
      cases step with
      | pass time may => exact ⟨ih.works, ih.started⟩
      | move wall move allowed =>
          cases move with
          | start cancelled =>
              have idle : k.elector.stage = .idle := allowed
              have fits := orderly.fits
              rw [idle] at fits
              have opened : (k.opened cancelled).Employs := by
                refine ⟨fun running => absurd running (ih.idle_of_stopped orderly fits.2), ?_⟩
                rintro ⟨event, among, ended⟩
                cases cancelled with
                | false => cases among
                | true =>
                    cases List.mem_singleton.mp among
                    cases ended
              exact opened.hear (orderly.opened idle cancelled) (by simp)
          | cancel =>
              have saw (kind : Event τ → Bool) (quiet : kind .cancelled = false) :
                  Trace.Saw kind (.cancelled :: k.trace) ↔ Trace.Saw kind k.trace := by
                simp [Trace.Saw, quiet]
              refine ⟨fun running => ?_, ?_⟩
              · obtain ⟨started, going⟩ := ih.works running
                exact ⟨(saw _ rfl).mpr started, fun ended => going ((saw _ rfl).mp ended)⟩
              · exact fun ended => (saw _ rfl).mpr (ih.started ((saw _ rfl).mp ended))
          | hear signal =>
              refine ih.hear orderly ?_
              rintro panicked rfl
              exact allowed
          | restart => exact fresh k.now

/-- While a run is in progress, its workload runs just where the trace shows that. -/
theorem Reachable.working_iff (reachable : Reachable c pace k) (running : k.elector.IsRunning) :
    k.elector.work = .running ↔ Trace.Works k.trace := by
  refine ⟨reachable.employs.works, ?_⟩
  rintro ⟨started, going⟩
  have fits := reachable.orderly.fits
  have started := (account_started c.identity k.trace).mpr started
  have unended : (account c.identity k.trace).workEnded ≠ true :=
    fun ended => going ((account_workEnded c.identity k.trace).mp ended)
  have staffed (staffed : (account c.identity k.trace).Staffed k.elector.work) :
      k.elector.work = .running :=
    staffed.resolve_right fun ⟨_, _, ended⟩ => unended ended
  cases stage : k.elector.stage with
  | idle => exact absurd stage running
  | reading deadline | waiting next =>
      rw [stage] at fits
      cases started.symm.trans fits.started
  | claiming deadline record stamped =>
      rw [stage] at fits
      cases started.symm.trans fits.1.started
  | holding held next | rereading held =>
      rw [stage] at fits
      exact staffed fits.staffed
  | renewing held record begun =>
      rw [stage] at fits
      exact staffed fits.1.staffed
  | stopping held reason =>
      rw [stage] at fits
      exact fits.2
  | releasing deadline =>
      rw [stage] at fits
      exact absurd (reachable.orderly.lawful.ended_of_stopped (fits.stopped started)) unended

end Course

end LeaseElection
