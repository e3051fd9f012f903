import LeaseElection.Proofs.Course.Appearance

namespace LeaseElection

namespace Elector

variable {τ : Type} {c : ElectionConfig} {m : Moment} {base : Trace τ} {t : Turn τ} {v : View}
  {held : Held τ}

theorem finish_appears (shows : t.Shows c base v) (outcome : ElectionOutcome) (gauge : v.gauge c = 0)
    (once : v.met.length ≤ 1)
    (reported : v.reports = v.sought.destutter (· ≠ ·) ++ v.met)
    (lost : outcome = .leadershipLost →
      v.status.leader = v.met.head? ∧ v.status.leader ≠ some c.identity) :
    Turned c base (finish t outcome) := by
  have entered := shows.enter .idle fun leads => absurd leads (by decide)
  have trace : (finish t outcome).trace base =
      .did (.returned outcome) :: (t.enter .idle).trace base := Turn.emit_trace _ _ _
  have seen : view c ((finish t outcome).trace base) =
      { v with
        status := { v.status with phase := .idle }
        running := false
        outcome := some outcome } := by
    rw [trace, view, entered.seen]
    rfl
  refine ⟨?_, entered.identity, ?_, ?_⟩
  · rw [seen]
    exact entered.status
  · rw [trace]
    refine entered.seemly.cons trivial ⟨?_, ?_, ?_⟩ <;> rw [entered.seen]
    · intro leads
      rcases leads with leading | renewing
      · cases leading
      · cases renewing
    · exact fun _ => ⟨rfl, gauge⟩
    · exact fun same => lost (Option.some.inj same)
  · rw [seen]
    exact ⟨rfl, once, reported⟩

theorem finish_resigned_appears (shows : t.Shows c base v) (resigned : v.Resigned c) :
    Turned c base (finish t .cancelled) := by
  refine finish_appears shows .cancelled resigned.gauge ?_ ?_ nofun
  · simp [resigned.met]
  · rw [resigned.met, List.append_nil]
    exact resigned.reported

theorem failed_release_appears (shows : t.Shows c base v) (resigned : v.Resigned c)
    (line : LogLine) :
    Turned c base (finish ((t.emit (.count .releaseFailures)).emit (.log line)) .cancelled) := by
  have counter : Metric.releaseFailures.IsCounter := by decide
  refine finish_resigned_appears ((shows.count .releaseFailures counter).unseen (.log line) rfl
    trivial) ⟨resigned.resigned, ?_, resigned.met, resigned.reported⟩
  exact (View.gauge_count counter 1).trans resigned.gauge

theorem depart_appears (shows : t.Shows c base v) (resigned : v.Resigned c) :
    Turned c base (depart c m t held) := by
  unfold depart
  split
  · have called := (shows.become (.releasing (m.now + c.renewDeadline.nanoseconds))).unseen
      (.call (.update (held.record.released m.wall) held.token)) rfl trivial
    exact called.appears ⟨shows.ongoing, resigned⟩
  · exact finish_resigned_appears shows resigned

/-- Whoever leads no longer measures that, and reports the successor after it has stopped. -/
theorem stepDown_appears (shows : t.Shows c base v) (reason : StopReason)
    (leaving : v.Leaving c reason.successor t.elector.lastReported) (panicked : Bool) :
    Turned c base (stepDown c m t held reason panicked) := by
  have idle := shows.withElector { t.elector with work := .absent } rfl
  have stopped := ((idle.logIf (.error "leader workload panicked") panicked).measure false
    leaving.resigned).stop
  cases reason with
  | cancelled =>
      exact depart_appears stopped
        ⟨leaving.resigned, View.gauge_write 0, leaving.met, leaving.reported⟩
  | lost successor =>
      have counted := (stopped.count .abdications (by decide)).unseen
        (.log (.warn "stopped leading: leadership lost")) rfl trivial
      have followed := counted.follow successor leaving.resigned
      have gauge : View.gauge c { v with
          metrics := (v.metrics.write .isLeader c.key.text 0).add .abdications c.key.text 1 } = 0 :=
        (View.gauge_count (by decide) 1).trans (View.gauge_write 0)
      cases successor with
      | none =>
          have met : v.met = [] := leaving.met
          refine finish_appears followed .leadershipLost gauge ?_ ?_ fun _ => ⟨?_, nofun⟩
          · simp [met]
          · rw [met, List.append_nil]
            exact leaving.reported
          · simp [met]
      | some leader =>
          have met : v.met = [leader] := leaving.met
          obtain ⟨named, foreign⟩ := leaving.foreign leader rfl
          -- whoever was reported before the lease was won no longer counts
          obtain ⟨metrics, reported, unmoved, -⟩ := followed.report named foreign leaving.resigned
            (fun _ => rfl) (by simpa [Turn.logIf_elector, leaving.last] using Ne.symm foreign)
          refine finish_appears reported .leadershipLost (unmoved.trans gauge) ?_ ?_
            fun _ => ⟨?_, ?_⟩
          · simp [met]
          · rw [met]
            exact congrArg (· ++ [leader]) leaving.reported
          · simp [met]
          · simpa using foreign

theorem stop_appears (shows : t.Shows c base v) (reason : StopReason)
    (leading : v.Leading c reason.successor.toList t.elector.lastReported)
    (foreign : ∀ leader ∈ reason.successor, leader ≠ "" ∧ leader ≠ c.identity) :
    Turned c base (stop c m t held reason) := by
  have entered := shows.enter .releasing fun leads => absurd leads (by decide)
  have quits := entered.unseen .cancelWork rfl trivial
  have leaving : View.Leaving c { v with status := { v.status with phase := .releasing } }
      reason.successor (t.enter .releasing).elector.lastReported := by
    rw [Turn.enter_lastReported]
    exact ⟨by simp [ElectionStatus.IsLeader], leading.met, foreign, leading.reported, leading.last⟩
  unfold stop
  dsimp only
  split
  · exact stepDown_appears quits reason leaving _
  · exact (quits.become _).appears ⟨quits.ongoing, leaving⟩
  · exact (quits.become _).appears ⟨quits.ongoing, leaving⟩

/-- Leading stops, and no other participant was met. -/
theorem stop_alone_appears (shows : t.Shows c base v) {reason : StopReason}
    (alone : reason.successor = none) (leading : v.Leading c [] t.elector.lastReported) :
    Turned c base (stop c m t held reason) := by
  refine stop_appears shows reason ?_ ?_
  · rw [alone]
    exact leading
  · simp [alone]

theorem hold_appears (shows : t.Shows c base v) (leading : v.Leading c [] t.elector.lastReported) :
    Turned c base (hold c m t held) := by
  have late := shows.unseen (.log (.warn "failed to renew lease before the renew deadline")) rfl
    trivial
  unfold hold
  split
  · exact stop_alone_appears shows rfl leading
  · split
    · exact stop_alone_appears late rfl leading
    · exact (shows.become _).appears ⟨shows.ongoing, leading⟩

theorem renew_appears (shows : t.Shows c base v) (leading : v.Leading c [] t.elector.lastReported) :
    Turned c base (renew c m t held) := by
  have entered := shows.enter .renewing fun _ => shows.leads leading.leads
  have called := (entered.become
    (.renewing held (held.record.renewed c.lease m.wall) m.now)).unseen
      (.call (.update (held.record.renewed c.lease m.wall) held.token)) rfl trivial
  have last : (t.enter .renewing).elector.lastReported = some c.identity :=
    (t.enter_lastReported .renewing).trans leading.last
  exact called.appears ⟨called.ongoing, .inr rfl, leading.met, leading.reported, last⟩

theorem renewalFailed_appears (shows : t.Shows c base v)
    (leading : v.Leading c [] t.elector.lastReported) (stale : Bool) :
    Turned c base (renewalFailed c m t held stale) := by
  have counted := shows.count .renewFailures (by decide)
  have still : View.Leading c { v with metrics := v.metrics.add .renewFailures c.key.text 1 } []
      t.elector.lastReported := ⟨leading.leads, leading.met, leading.reported, leading.last⟩
  unfold renewalFailed reread
  split
  · split
    · exact stop_alone_appears counted rfl still
    · exact ((counted.become (.rereading held)).unseen (.call .get) rfl trivial).appears
        ⟨counted.ongoing, still⟩
  · exact hold_appears counted still

theorem lead_appears (shows : t.Shows c base v) (leader : v.status.leader = some c.identity)
    (gauge : v.gauge c = 1) (met : v.met = []) (reported : v.Reported)
    (last : t.elector.lastReported = some c.identity) : Turned c base (lead c m t held) := by
  have entered := shows.enter .leading fun _ => ⟨leader, gauge⟩
  have running := (entered.unseen (.hook (.started false)) rfl trivial).withElector
    { (t.enter .leading).elector with work := .running } rfl
  have still : (t.enter .leading).elector.lastReported = some c.identity :=
    (t.enter_lastReported .leading).trans last
  exact hold_appears running ⟨.inl rfl, met, reported, still⟩

/-- What was read of the record is in the view already when it is reconsidered. -/
theorem reconsider_appears {current : Versioned τ}
    (shows : t.Shows c base (v.read c.identity current.record))
    (leading : v.Leading c [] t.elector.lastReported) :
    Turned c base (reconsider c m t held current) := by
  have identity : t.identity = c.identity := shows.identity
  unfold reconsider
  rw [identity]
  split
  next own =>
    rw [View.read_of_own (.inr own.2)] at shows
    exact hold_appears shows leading
  next foreign =>
    have warned := shows.unseen (.log (.warn "lease is no longer held by this participant")) rfl
      trivial
    by_cases vacant : current.record.IsVacant
    · rw [View.read_of_own (.inl vacant)] at warned
      rw [if_pos vacant]
      exact stop_alone_appears warned rfl leading
    · have other : current.record.holder ≠ c.identity := fun same => foreign ⟨vacant, same⟩
      rw [View.read_of_leading leading.leads vacant other] at warned
      rw [if_neg vacant]
      refine stop_appears warned (.lost (some current.record.holder))
        ⟨leading.leads, ?_, leading.reported, leading.last⟩ ?_
      · simp [StopReason.successor, leading.met]
      · rintro leader ⟨⟩
        exact ⟨vacant, other⟩

theorem finish_seeking_appears (shows : t.Shows c base v) {last : Option String}
    (seeking : v.Seeking c last) : Turned c base (finish t .cancelled) :=
  finish_resigned_appears shows
    ⟨seeking.resigned, seeking.gauge, seeking.met, seeking.reported⟩

theorem attempt_appears (shows : t.Shows c base v) (seeking : v.Seeking c t.elector.lastReported) :
    Turned c base (attempt c m t) := by
  unfold attempt
  split
  · exact finish_seeking_appears shows seeking
  · have called := (shows.become (.reading (m.now + c.renewDeadline.nanoseconds))).unseen
      (.call .get) rfl trivial
    exact called.appears ⟨shows.ongoing, seeking⟩

theorem rest_appears (shows : t.Shows c base v) (seeking : v.Seeking c t.elector.lastReported) :
    Turned c base (rest c m t) := by
  unfold rest
  split
  · exact finish_seeking_appears shows seeking
  · exact (shows.become _).appears ⟨shows.ongoing, seeking⟩

theorem claim_appears (shows : t.Shows c base v) (seeking : v.Seeking c t.elector.lastReported)
    (deadline : Nat) (record : LeaseRecord) (call : StoreCall τ) :
    Turned c base (claim m t deadline record call) := by
  unfold claim
  split
  · exact finish_seeking_appears shows seeking
  · exact ((shows.become (.claiming deadline record m.now)).unseen (.call call) rfl trivial).appears
      ⟨shows.ongoing, seeking⟩

/-- A holder that was read is reported, unless it is the one that was read before it. -/
theorem observe_shows [DecidableEq τ] {current : Versioned τ}
    (shows : t.Shows c base (v.read c.identity current.record))
    (seeking : v.Seeking c t.elector.lastReported) :
    ∃ next, (observe m t current).Shows c base next ∧
      next.Seeking c (observe m t current).elector.lastReported := by
  have resigned := seeking.resigned
  have noticed := shows.withElector
    { t.elector with sighting := some (noted m t.elector.sighting current) } rfl
  have identity : Turn.identity ⟨{ t.elector with
      sighting := some (noted m t.elector.sighting current) }, t.effects⟩ = c.identity :=
    shows.identity
  unfold observe
  dsimp only
  rw [identity]
  by_cases vacant : current.record.IsVacant
  · rw [View.read_of_own (.inl vacant)] at noticed
    rw [if_pos vacant]
    exact ⟨_, noticed.follow none resigned, seeking.phase, seeking.gauge, seeking.met,
      seeking.reported, (Turn.follow_lastReported ..).trans seeking.last⟩
  rw [if_neg vacant]
  by_cases own : current.record.holder = c.identity
  · rw [View.read_of_own (.inr own)] at noticed
    rw [if_pos own]
    exact ⟨_, noticed, seeking⟩
  rw [View.read_of_resigned resigned vacant own] at noticed
  rw [if_neg own]
  have followed := noticed.follow (some current.record.holder) resigned
  have unmoved : (Turn.follow ⟨{ t.elector with
      sighting := some (noted m t.elector.sighting current) }, t.effects⟩
      (some current.record.holder)).elector.lastReported = t.elector.lastReported :=
    Turn.follow_lastReported ..
  by_cases same : t.elector.lastReported = some current.record.holder
  · have again : v.sought.getLast? = some current.record.holder := seeking.last.symm.trans same
    rw [Turn.report, if_pos (.inr (.inr (unmoved.trans same)))]
    refine ⟨_, followed, seeking.phase, seeking.gauge, seeking.met, ?_, ?_⟩
    · exact seeking.reported.trans (by rw [destutter_concat, if_pos again])
    · exact (unmoved.trans same).trans List.getLast?_concat.symm
  · have fresh : v.sought.getLast? ≠ some current.record.holder :=
      fun again => same (seeking.last.trans again)
    obtain ⟨metrics, reported, gauge, last⟩ := followed.report vacant own resigned
      (fun met => absurd seeking.met met) (fun again => same (unmoved.symm.trans again))
    refine ⟨_, reported, seeking.phase, gauge.trans seeking.gauge, seeking.met, ?_, ?_⟩
    · have before : v.reports = v.sought.destutter (· ≠ ·) := seeking.reported
      show v.reports ++ [current.record.holder] =
        (v.sought ++ [current.record.holder]).destutter (· ≠ ·)
      rw [destutter_concat, if_neg fresh, before]
    · exact last.trans List.getLast?_concat.symm

theorem consider_appears [DecidableEq τ] {current : Versioned τ}
    (shows : t.Shows c base (v.read c.identity current.record))
    (seeking : v.Seeking c t.elector.lastReported) (deadline : Nat) :
    Turned c base (consider c m t deadline current) := by
  obtain ⟨next, observed, still⟩ := observe_shows (m := m) shows seeking
  unfold consider
  dsimp only
  split
  · exact claim_appears observed still ..
  · exact rest_appears observed still

/-- A lease acquired after the run was cancelled is given up before it is ever led. -/
theorem acquired_appears (shows : t.Shows c base v) (seeking : v.Seeking c t.elector.lastReported) :
    Turned c base (acquired c m t held) := by
  have identity : t.identity = c.identity := shows.identity
  have measured := ((shows.count .acquisitions (by decide)).measure true seeking.resigned).withElector
    { t.elector with lastReported := some t.identity } rfl
  have followed := measured.follow (some t.identity) seeking.resigned
  unfold acquired
  dsimp only
  split
  · have dropped := followed.measure false seeking.resigned
    split
    · have entered := dropped.enter .releasing fun leads => absurd leads (by decide)
      exact depart_appears entered ⟨by simp [ElectionStatus.IsLeader], View.gauge_write 0,
        seeking.met, seeking.reported⟩
    · exact depart_appears dropped
        ⟨seeking.resigned, View.gauge_write 0, seeking.met, seeking.reported⟩
  · refine lead_appears followed (congrArg some identity) (View.gauge_write 1) seeking.met
      seeking.reported ?_
    exact (Turn.follow_lastReported ..).trans (congrArg some identity)

end Elector

/-- What is told changes what is seen only where a run starts, or the record was read. -/
theorem View.note_told {c : ElectionConfig} {m : Moment} {v : View} {signal : Signal τ}
    (begun : signal ≠ .start) (unread : ∀ current, signal ≠ .answered (.found current)) :
    v.note c (.told m signal) = v := by
  cases signal with
  | start => exact absurd rfl begun
  | answered answer =>
      cases answer with
      | found current => exact absurd rfl (unread current)
      | written token | failed error => rfl
  | cancelled | timer | workEnded panicked => rfl

theorem Signal.Cancels.note {c : ElectionConfig} {m : Moment} {v : View} {signal : Signal τ}
    (cancels : signal.Cancels m) : v.note c (.told m signal) = v := by
  cases signal with
  | cancelled | timer => rfl
  | start | answered answer | workEnded panicked => exact cancels.elim

theorem Signal.Fails.note {c : ElectionConfig} {m : Moment} {v : View} {signal : Signal τ}
    (fails : signal.Fails) : v.note c (.told m signal) = v := by
  refine View.note_told ?_ ?_
  · rintro rfl
    exact fails
  · rintro current rfl
    exact fails

namespace Stage.Displays

variable {c : ElectionConfig} {last : Option String} {v : View} {s : Stage τ} {held : Held τ}

theorem seeking (displays : s.Displays c last v) (seeks : s.Seeks) :
    v.Ongoing ∧ v.Seeking c last := by
  cases s with
  | reading deadline | claiming deadline record stamped | waiting next => exact displays
  | _ => exact seeks.elim

theorem leading (displays : s.Displays c last v) (leads : s.held? = some held) :
    v.Ongoing ∧ v.Leading c [] last := by
  cases s with
  | holding held next | renewing held record started | rereading held => exact displays
  | _ => cases leads

end Stage.Displays

namespace Elector

variable {τ : Type} {c : ElectionConfig} {m : Moment} {base : Trace τ} {t : Turn τ} {v : View}

namespace Appears

variable {log : Trace τ} {e : Elector τ}

/-- Only what is published of an elector, its stage and the leader reported last are seen. -/
theorem withElector (appears : e.Appears c log) {other : Elector τ} (status : other.status = e.status)
    (stage : other.stage = e.stage) (last : other.lastReported = e.lastReported) :
    other.Appears c log where
  status := status.trans appears.status
  identity := status ▸ appears.identity
  seemly := appears.seemly
  displays := by
    rw [stage, last]
    exact appears.displays

/-- An event that nothing is seen of. -/
theorem unseen (appears : e.Appears c log) (event : Event τ)
    (note : (view c log).note c event = view c log) (permitted : (view c log).Permits c event) :
    e.Appears c (event :: log) where
  status := appears.status.trans (congrArg View.status note.symm)
  identity := appears.identity
  seemly := by
    refine appears.seemly.cons permitted ?_
    rw [note]
    exact appears.seemly.coherent _ List.suffix_rfl
  displays := by
    rw [view, note]
    exact appears.displays

/-- While a run is in progress, it goes on from what is seen once a signal is told. -/
theorem shows (appears : e.Appears c log) (signal : Signal τ) (ongoing : (view c log).Ongoing)
    (note : (view c log).note c (.told m signal) = view c log) :
    (Turn.mk e []).Shows c (.told m signal :: log) (view c log) where
  seen := note
  status := appears.status
  identity := appears.identity
  ongoing := ongoing
  seemly := (appears.unseen _ note trivial).seemly

theorem shows_found (appears : e.Appears c log) (current : Versioned τ)
    (ongoing : (view c log).Ongoing) :
    (Turn.mk e []).Shows c (.told m (.answered (.found current)) :: log)
      ((view c log).read c.identity current.record) where
  seen := rfl
  status := appears.status.trans (View.read_status ..).symm
  identity := appears.identity
  ongoing := ongoing.read
  seemly := by
    have coherent := appears.seemly.coherent _ List.suffix_rfl
    refine appears.seemly.cons trivial (ongoing.read.coherent fun leads => ?_)
    rw [View.read_status] at leads ⊢
    rw [View.read_gauge]
    exact coherent.leads leads

end Appears

variable {log : Trace τ} {e : Elector τ}

theorem Begins.shows (begins : e.Begins t) (shows : (Turn.mk e []).Shows c base v) :
    t.Shows c base v := by
  cases begins with
  | plain => exact shows
  | abandoning => exact shows.unseen .abandon rfl trivial

/-- Whatever a participant is told, it appears afterwards as its stage demands. -/
theorem step_appears [DecidableEq τ] (appears : e.Appears c log) {signal : Signal τ}
    (starts : signal = .start → e.stage = .idle)
    (expected : ∀ answer, signal = .answered answer → e.stage.Expects answer) :
    Turned c (.told m signal :: log) (e.step c m signal) := by
  have displays := appears.displays
  have reacts := step_reacts c m e signal
  generalize stage : e.stage = s at displays reacts
  generalize e.step c m signal = t at reacts ⊢
  cases reacts with
  | ignores ignores =>
      refine appears.unseen _ (View.note_told ?_ ?_) trivial
      · rintro rfl
        exact ignores (starts rfl)
      · rintro current rfl
        exact ignores (expected _ rfl)
  | starts =>
      have rests := (appears.seemly.coherent _ List.suffix_rfl).rests displays.finished
      have resigned : ¬ (view c log).status.IsLeader := by simp [ElectionStatus.IsLeader, rests.1]
      have ongoing : View.Ongoing (view c (.told m .start :: log)) := ⟨rfl, rfl⟩
      have begun : (Turn.mk e.cleared []).Shows c (.told m .start :: log)
          (view c (.told m .start :: log)) :=
        ⟨rfl, appears.status, appears.identity, ongoing, appears.seemly.cons trivial
          (ongoing.coherent fun leads => absurd leads resigned)⟩
      have entered := begun.enter .acquiring fun leads => absurd leads (by decide)
      exact attempt_appears entered ⟨rfl, rests.2, rfl, rfl, Turn.enter_lastReported ..⟩
  | withdraws begins seeks cancels =>
      obtain ⟨ongoing, seeking⟩ := displays.seeking seeks
      exact finish_seeking_appears (begins.shows (appears.shows _ ongoing cancels.note)) seeking
  | quits begins leads cancels =>
      obtain ⟨ongoing, leading⟩ := displays.leading leads
      have shows := begins.shows (appears.shows (m := m) signal ongoing cancels.note)
      exact stop_alone_appears shows rfl (begins.elector ▸ leading)
  | retries =>
      obtain ⟨ongoing, seeking⟩ := displays
      exact attempt_appears (appears.shows .timer ongoing rfl) seeking
  | rests begins seeks fails =>
      obtain ⟨ongoing, seeking⟩ := displays.seeking seeks
      have shows := begins.shows (appears.shows (m := m) signal ongoing fails.note)
      exact rest_appears shows (begins.elector ▸ seeking)
  | considers =>
      obtain ⟨ongoing, seeking⟩ := displays
      exact consider_appears (appears.shows_found _ ongoing) seeking _
  | founds missing =>
      obtain ⟨ongoing, seeking⟩ := displays
      exact claim_appears (appears.shows _ ongoing rfl) seeking ..
  | acquires =>
      obtain ⟨ongoing, seeking⟩ := displays
      exact acquired_appears (appears.shows _ ongoing rfl) seeking
  | renews free early =>
      obtain ⟨ongoing, leading⟩ := displays
      exact renew_appears (appears.shows .timer ongoing rfl) leading
  | expires begins leads late =>
      obtain ⟨ongoing, leading⟩ := displays.leading leads
      have shows := begins.shows (appears.shows (m := m) .timer ongoing rfl)
      exact hold_appears shows (begins.elector ▸ leading)
  | goesUnrenewed late =>
      obtain ⟨ongoing, leading⟩ := displays
      exact renewalFailed_appears ((appears.shows .timer ongoing rfl).unseen .abandon rfl trivial)
        leading false
  | @renewed _ _ _ token =>
      obtain ⟨ongoing, leading⟩ := displays
      have written := appears.shows (m := m) (.answered (.written token)) ongoing rfl
      refine hold_appears (written.enter .leading fun _ => written.leads leading.leads) ?_
      exact ⟨.inl rfl, leading.met, leading.reported,
        (Turn.enter_lastReported ..).trans leading.last⟩
  | fails =>
      obtain ⟨ongoing, leading⟩ := displays
      exact renewalFailed_appears (appears.shows _ ongoing rfl) leading _
  | reconsiders =>
      obtain ⟨ongoing, leading⟩ := displays
      exact reconsider_appears (appears.shows_found _ ongoing) leading
  | resumes =>
      obtain ⟨ongoing, leading⟩ := displays
      exact hold_appears (appears.shows _ ongoing rfl) leading
  | @released _ token =>
      obtain ⟨ongoing, resigned⟩ := displays
      have followed := (appears.shows (m := m) (.answered (.written token)) ongoing rfl).follow none
        resigned.resigned
      exact finish_resigned_appears followed
        ⟨resigned.resigned, resigned.gauge, resigned.met, resigned.reported⟩
  | goesUnreleased begins text fails =>
      obtain ⟨ongoing, resigned⟩ := displays
      have shows := begins.shows (appears.shows (m := m) signal ongoing fails.note)
      exact failed_release_appears shows resigned _
  | notes => exact (appears.unseen (.told m _) rfl trivial).withElector rfl rfl rfl
  | stepsDown =>
      obtain ⟨ongoing, leaving⟩ := displays
      exact stepDown_appears ((appears.shows _ ongoing rfl).withElector _ rfl) _ leaving _

end Elector

namespace Course

variable [DecidableEq τ] {c : ElectionConfig} {pace : Pace} {log : Trace τ} {k : Course τ}

/-- A participant always appears as its stage demands. -/
theorem Chronicle.appears (chronicle : Chronicle c pace log k) : k.elector.Appears c log := by
  induction chronicle with
  | initial now => exact ⟨rfl, rfl, Trace.seemly_nil, rfl, Nat.zero_le 1, rfl⟩
  | @move log k _ wall move allowed ih =>
      cases move with
      | start cancelled =>
          have asked : Elector.Appears c ((if cancelled then [.cancelled] else []) ++ log)
              (k.opened cancelled).elector := by
            cases cancelled with
            | true => exact ih.unseen .cancelled rfl trivial
            | false => exact ih
          rw [news, hear, Turn.trace_append]
          refine Elector.step_appears asked (fun _ => allowed) ?_
          rintro answer ⟨⟩
      | cancel => exact ih.unseen .cancelled rfl trivial
      | hear signal =>
          have unstarted : signal ≠ .start := by
            rintro rfl
            exact allowed
          rw [news, Turn.trace_append]
          exact Elector.step_appears ih (fun starts => absurd starts unstarted) allowed.expected
      | restart =>
          exact ⟨rfl, rfl, ih.seemly.cons trivial (View.blank_coherent c), rfl, Nat.zero_le 1, rfl⟩
  | pass _ time may ih => exact ih

end Course

end LeaseElection
