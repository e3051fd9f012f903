import LeaseElection.Proofs.Course.Conduct
import LeaseElection.Proofs.Lease.Record

namespace LeaseElection

namespace Elector

variable {τ : Type} {c : ElectionConfig} {m : Moment} {signal : Signal τ} {past : Trace τ}
  {t : Turn τ} {d : Account τ} {held : Held τ}

theorem finish_settled (sound : t.Sound c m signal past d) (outcome : ElectionOutcome)
    (closing : d.phase = .acquiring ∨ d.phase = .releasing) (may : d.MayReturn outcome) :
    (finish t outcome).Settled c m past := by
  have order : d.phase.Precedes .idle := by
    rcases closing with acquiring | releasing
    · simp [acquiring, ElectionPhase.Precedes]
    · simp [releasing, ElectionPhase.Precedes]
  have resigned : d.phase.Leads → ElectionPhase.idle.Leads := by
    rcases closing with acquiring | releasing
    · simp [acquiring, ElectionPhase.Leads]
    · simp [releasing, ElectionPhase.Leads]
  have entered := (sound.enter .idle (.inr order) resigned).become .idle
  have returned := entered.emit (.returned outcome) may rfl
  rw [note_returned] at returned
  exact returned.settled ⟨rfl, may.1⟩

theorem finish_seeking (sound : t.Sound c m signal past d) {secured : Option Nat}
    (seeking : d.Seeking secured) : (finish t .cancelled).Settled c m past := by
  refine finish_settled sound .cancelled (.inl seeking.phase) ⟨?_, ?_, ?_⟩
  · simp [seeking.started]
  · simp [seeking.left]
  · simp [seeking.kept]

theorem depart_settled (sound : t.Sound c m signal past d) (resigned : d.Resigned)
    (closing : d.phase = .releasing ∨ (d.phase = .acquiring ∧ c.releaseOnCancel = false)) :
    (depart c m t held).Settled c m past := by
  unfold depart
  split
  next wanted =>
    have releasing : d.phase = .releasing := closing.resolve_right (by simp [wanted])
    have entered := sound.become (.releasing (m.now + c.renewDeadline.nanoseconds))
    have vacant : (StoreCall.update (held.record.released m.wall) held.token).IsRelease :=
      ⟨_, _, rfl, rfl⟩
    exact (entered.release vacant wanted resigned).settled
      ⟨releasing, resigned.stopped, resigned.kept, resigned.left⟩
  · refine finish_settled sound .cancelled (closing.symm.imp And.left id) ⟨resigned.stopped, ?_, ?_⟩
    · simp [resigned.left]
    · simp [resigned.kept]

theorem stepDown_settled (sound : t.Sound c m signal past d) {reason : StopReason}
    (quitting : d.Quitting reason) (ended : d.workEnded = true) (panicked : Bool) :
    (stepDown c m t held reason panicked).Settled c m past := by
  have absent := sound.withElector { t.elector with work := .absent } rfl
  have logged : (if panicked then
        (Turn.mk { t.elector with work := .absent } t.effects).emit
          (.log (.error "leader workload panicked"))
      else Turn.mk { t.elector with work := .absent } t.effects).Sound c m signal past d := by
    split
    · exact absent.aside _ (by decide : ¬ LogLine.IsLoss (.error "leader workload panicked"))
    · exact absent
  have stopped := (logged.aside (.gauge false) trivial).emit (.hook .stopped)
    ⟨quitting.started, quitting.stopped, quitting.workCancelled, ended⟩ rfl
  rw [note_stopped] at stopped
  have left : d.left = some d.lost := quitting.left
  unfold stepDown
  cases reason with
  | cancelled =>
      have kept : d.lost = false := by simpa using quitting.lost
      refine depart_settled stopped ⟨quitting.secured, fun _ => rfl, kept, quitting.departed, ?_,
        quitting.cancelled kept⟩ (.inl quitting.phase)
      simp [left, kept]
  | lost successor =>
      have lost : d.lost = true := by simpa using quitting.lost
      have counted := stopped.aside (.count .abdications) trivial
      have warned := counted.aside (.log (.warn "stopped leading: leadership lost"))
        (by decide : ¬ LogLine.IsLoss (.warn "stopped leading: leadership lost"))
      have followed := warned.follow successor
      have may : ({ d with stopped := true } : Account τ).MayReturn .leadershipLost :=
        ⟨fun _ => rfl, by simp [left, lost], fun _ => rfl⟩
      cases successor with
      | none => exact finish_settled followed _ (.inr quitting.phase) may
      | some leader => exact finish_settled (followed.report leader) _ (.inr quitting.phase) may

theorem stop_settled (sound : t.Sound c m signal past d) {reason : StopReason}
    (leading : d.Leading held) (staffed : d.Staffed t.elector.work) (leave : d.MayLeave c)
    (lost : d.lost = true ↔ reason ≠ .cancelled) :
    (stop c m t held reason).Settled c m past := by
  have released := sound.enterReleasing leading.leads leave
  have cancelledWork := released.emit .cancelWork trivial rfl
  rw [note_cancelWork] at cancelledWork
  obtain ⟨m', signal', begun, told, secured, -, cancelled⟩ := leave
  have told : m' = m := by simpa using congrArg (Option.map Prod.fst) (told.symm.trans sound.told)
  have quitting : ({ d with
      phase := .releasing, left := some d.lost, workCancelled := true } : Account τ).Quitting
        reason :=
    { phase := rfl
      secured := by simp [secured]
      started := leading.started
      stopped := leading.stopped
      workCancelled := rfl
      departed := leading.departed
      lost
      left := rfl
      cancelled := fun kept => sound.cancelled.trans (told ▸ cancelled kept) }
  -- a workload that has ended already is not waited for
  rcases staffed with running | ⟨panicked, finished, ended⟩
  · have work : ((t.enter .releasing).emit .cancelWork).elector.work = .running := by
      simp [running]
    simp only [stop, work]
    exact (cancelledWork.become _).settled ⟨quitting, work⟩
  · have work : ((t.enter .releasing).emit .cancelWork).elector.work = .ended panicked := by
      simp [finished]
    simp only [stop, work]
    exact stepDown_settled cancelledWork quitting ended panicked

theorem quit_settled (sound : t.Sound c m signal past d) (duty : d.OnDuty c held t.elector.work)
    (cancelled : m.cancelled = true) (loyal : ¬ signal.Supplants c.identity) :
    (stop c m t held .cancelled).Settled c m past := by
  refine stop_settled sound duty.leading duty.staffed
    ⟨m, signal, held.stamped, sound.told, duty.leading.secured, ?_, fun _ => cancelled⟩ ?_
  · simp [duty.kept, loyal, cancelled]
  · simp [duty.kept]

theorem hold_settled (sound : t.Sound c m signal past d) (duty : d.OnDuty c held t.elector.work)
    (loyal : ¬ signal.Supplants c.identity) : (hold c m t held).Settled c m past := by
  unfold hold
  split
  next cancelled => exact quit_settled sound duty cancelled loyal
  next free =>
    split
    next late =>
      have warned := sound.emit
        (.log (.warn "failed to renew lease before the renew deadline")) trivial rfl
      have lost : d.note c.identity
          (.did (.log (.warn "failed to renew lease before the renew deadline"))) =
            { d with lost := true } := by
        simp [note_log, LogLine.IsLoss]
      rw [lost] at warned
      have overdue : m.cancelled = false ∧ held.stamped + c.renewDeadline.nanoseconds ≤ m.now :=
        ⟨by simpa using free, late⟩
      refine stop_settled warned (duty.leading.aside _ _ _ _ true) duty.staffed
        ⟨m, signal, held.stamped, sound.told, duty.leading.secured, ?_, nofun⟩ ?_
      · exact ⟨fun _ => .inr overdue, fun _ => rfl⟩
      · simp
    · exact (sound.become _).settled duty

theorem lead_settled (sound : t.Sound c m signal past d) (own : held.record.holder = c.identity)
    (elected : d.Seeking (some held.stamped)) (loyal : ¬ signal.Supplants c.identity) :
    (lead c m t held).Settled c m past := by
  have order : d.phase.Precedes .leading := by simp [elected.phase, ElectionPhase.Precedes]
  have entered := sound.enter .leading (.inr order) (fun _ => .inl rfl)
  have started := entered.emit (.hook (.started false))
    ⟨by simp [elected.secured], elected.started⟩ rfl
  rw [note_started] at started
  have running := started.withElector
    { ((t.enter .leading).emit (.hook (.started false))).elector with work := .running } rfl
  exact hold_settled running
    { own
      leading := ⟨.inl rfl, elected.secured, rfl, elected.stopped, elected.departed⟩
      kept := elected.kept
      staffed := .inl rfl } loyal

theorem renew_settled (sound : t.Sound c m signal past d) (duty : d.OnDuty c held t.elector.work)
    (free : m.cancelled = false) : (renew c m t held).Settled c m past := by
  have order : ElectionPhase.renewing = d.phase ∨ d.phase.Precedes .renewing :=
    duty.leading.leads.precedes (.inr rfl)
  have entered := (sound.enter .renewing order fun _ => .inr rfl).become
    (.renewing held (held.record.renewed c.lease m.wall) m.now)
  have called := entered.call free duty.kept
    (.update (held.record.renewed c.lease m.wall) held.token) (by simp)
  have own : (held.record.renewed c.lease m.wall).holder = c.identity :=
    (held.record.renewed_holder c.lease m.wall).trans duty.own
  have work : (t.enter .renewing).elector.work = t.elector.work := by simp
  have busy := (duty.enter (.inr rfl)).aside d.told
    (some (.update (held.record.renewed c.lease m.wall) held.token, m.now)) d.cancelled
  exact called.settled ⟨work ▸ busy, ⟨_, rfl, own⟩, own⟩

theorem reread_settled (sound : t.Sound c m signal past d) (duty : d.OnDuty c held t.elector.work)
    (loyal : ¬ signal.Supplants c.identity) (conflict : signal.Conflicts) :
    (reread c m t held).Settled c m past := by
  unfold reread
  split
  next cancelled => exact quit_settled sound duty cancelled loyal
  next free =>
    have called := (sound.become (.rereading held)).call (by simpa using free) duty.kept .get
      fun _ _ => conflict
    exact called.settled (duty.aside _ _ _)

theorem renewalFailed_settled (sound : t.Sound c m signal past d)
    (duty : d.OnDuty c held t.elector.work) (loyal : ¬ signal.Supplants c.identity)
    (stale : Bool) (conflict : stale = true → signal.Conflicts) :
    (renewalFailed c m t held stale).Settled c m past := by
  have counted := sound.aside (.count .renewFailures) trivial
  unfold renewalFailed
  split
  next same => exact reread_settled counted duty loyal (conflict same)
  · exact hold_settled counted duty loyal

/-- A record that somebody else holds, or nobody, ends leadership even of a cancelled leader. -/
theorem reconsider_settled {current : Versioned τ}
    (sound : t.Sound c m (.answered (.found current)) past d)
    (duty : d.OnDuty c held t.elector.work) : (reconsider c m t held current).Settled c m past := by
  have identity : t.identity = c.identity := sound.identity
  unfold reconsider
  rw [identity]
  split
  next own =>
    have loyal : ¬ (Signal.answered (.found current)).Supplants c.identity := by
      rintro ⟨other, same, foreign⟩
      cases same
      exact foreign own
    have leading : d.Leading ⟨current.record, current.token, held.stamped⟩ :=
      ⟨duty.leading.leads, duty.leading.secured, duty.leading.started, duty.leading.stopped,
        duty.leading.departed⟩
    exact hold_settled sound ⟨own.2, leading, duty.kept, duty.staffed⟩ loyal
  next foreign =>
    have warned := sound.emit (.log (.warn "lease is no longer held by this participant")) trivial
      rfl
    have lost : d.note c.identity
        (.did (.log (.warn "lease is no longer held by this participant"))) =
          { d with lost := true } := by
      simp [note_log, LogLine.IsLoss]
    rw [lost] at warned
    refine stop_settled warned (duty.leading.aside _ _ _ _ true) duty.staffed
      ⟨m, _, held.stamped, sound.told, duty.leading.secured, ?_, nofun⟩ ?_
    · exact ⟨fun _ => .inl ⟨current, rfl, foreign⟩, fun _ => rfl⟩
    · simp

theorem attempt_settled (sound : t.Sound c m signal past d) (seeking : d.Seeking none) :
    (attempt c m t).Settled c m past := by
  unfold attempt
  split
  · exact finish_seeking sound seeking
  next free =>
    have called := (sound.become (.reading (m.now + c.renewDeadline.nanoseconds))).call
      (by simpa using free) seeking.kept .get seeking.not_leads
    exact called.settled (seeking.aside _ _ _ _)

theorem rest_settled (sound : t.Sound c m signal past d) (seeking : d.Seeking none) :
    (rest c m t).Settled c m past := by
  unfold rest
  split
  · exact finish_seeking sound seeking
  · exact (sound.become _).settled seeking

theorem claim_settled (sound : t.Sound c m signal past d) (seeking : d.Seeking none)
    (deadline : Nat) {record : LeaseRecord} {call : StoreCall τ} (claims : call.Claims c.identity)
    (own : record.holder = c.identity) : (claim m t deadline record call).Settled c m past := by
  unfold claim
  split
  · exact finish_seeking sound seeking
  next free =>
    have called := (sound.become (.claiming deadline record m.now)).call (by simpa using free)
      seeking.kept call seeking.not_leads
    exact called.settled ⟨seeking.aside _ _ _ _, ⟨call, rfl, claims⟩, own⟩

theorem observe_sound [DecidableEq τ] (sound : t.Sound c m signal past d)
    (current : Versioned τ) : (observe m t current).Sound c m signal past d := by
  have seen := sound.withElector
    { t.elector with sighting := some (noted m t.elector.sighting current) } rfl
  unfold observe
  dsimp only
  split
  · exact seen.follow none
  · split
    · exact seen
    · exact (seen.follow _).report _

theorem consider_settled [DecidableEq τ] (sound : t.Sound c m signal past d)
    (seeking : d.Seeking none) (deadline : Nat) (current : Versioned τ) :
    (consider c m t deadline current).Settled c m past := by
  have observed := observe_sound sound current
  have own : (current.record.takenOverBy (observe m t current).identity c.lease m.wall).holder =
      c.identity := (current.record.takenOverBy_holder ..).trans observed.identity
  unfold consider
  dsimp only
  split
  · exact claim_settled observed seeking deadline own own
  · exact rest_settled observed seeking

theorem found_settled (sound : t.Sound c m signal past d) (seeking : d.Seeking none)
    (deadline : Nat) : (found c m t deadline).Settled c m past :=
  claim_settled sound seeking deadline sound.identity sound.identity

theorem acquired_settled (sound : t.Sound c m signal past d) (own : held.record.holder = c.identity)
    (elected : d.Seeking (some held.stamped)) (loyal : ¬ signal.Supplants c.identity) :
    (acquired c m t held).Settled c m past := by
  have led := (sound.aside (.count .acquisitions) trivial).aside (.gauge true) trivial
  have reported := led.withElector { t.elector with lastReported := some t.identity } rfl
  have followed := reported.follow (some t.identity)
  unfold acquired
  dsimp only
  split
  next cancelled =>
    have gauged := followed.aside (.gauge false) trivial
    have cancelled : d.cancelled = true := sound.cancelled.trans cancelled
    cases wanted : c.releaseOnCancel with
    | true =>
        have order : d.phase.Precedes .releasing := by
          simp [elected.phase, ElectionPhase.Precedes]
        have entered := gauged.enter .releasing (.inr order) elected.not_leads
        refine depart_settled entered ⟨?_, ?_, elected.kept, elected.departed, ?_, cancelled⟩
          (.inl rfl)
        · simp [elected.secured]
        · simp [elected.started]
        · simp [elected.left]
    | false =>
        refine depart_settled gauged ⟨?_, ?_, elected.kept, elected.departed, ?_, cancelled⟩
          (.inr ⟨elected.phase, wanted⟩)
        · simp [elected.secured]
        · simp [elected.started]
        · simp [elected.left]
  · exact lead_settled followed own elected loyal

end Elector

end LeaseElection
