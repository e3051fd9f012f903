import LeaseElection.Proofs.Course.Onlooker
import LeaseElection.Proofs.Elector.Passage
import Mathlib.Data.List.Destutter

namespace LeaseElection

theorem destutter'_concat {α : Type} [DecidableEq α] (first last : α) (l : List α) :
    (l ++ [last]).destutter' (· ≠ ·) first =
      if (first :: l).getLast? = some last then l.destutter' (· ≠ ·) first
      else l.destutter' (· ≠ ·) first ++ [last] := by
  induction l generalizing first with
  | nil => by_cases same : first = last <;> simp [same]
  | cons next l ih =>
      rw [List.getLast?_cons_cons, List.cons_append]
      by_cases same : first = next
      · have repeated : ¬ first ≠ next := not_not.mpr same
        rw [List.destutter'_cons_neg _ repeated, List.destutter'_cons_neg _ repeated, ih, same]
      · rw [List.destutter'_cons_pos _ same, List.destutter'_cons_pos _ same, ih]
        split <;> rfl

/-- One more entry is dropped only if it repeats the last one. -/
theorem destutter_concat {α : Type} [DecidableEq α] (last : α) (l : List α) :
    (l ++ [last]).destutter (· ≠ ·) =
      if l.getLast? = some last then l.destutter (· ≠ ·) else l.destutter (· ≠ ·) ++ [last] := by
  cases l with
  | nil => rfl
  | cons first l =>
      rw [List.cons_append, List.destutter_cons', List.destutter_cons', destutter'_concat]

/-- The participant to whom the lease was lost, if one was found. -/
def StopReason.successor : StopReason → Option String
  | .cancelled => none
  | .lost successor => successor

namespace View

variable (c : ElectionConfig) (v : View)

/-- A run is in progress. -/
structure Ongoing : Prop where
  running : v.running = true
  pending : v.outcome = none

/-- Every holder that was read while acquiring was reported, but for repeats, and no more. -/
def Reported : Prop := v.reports = v.sought.destutter (· ≠ ·)

/-- Seeking the lease; the leader reported last is the holder that was read last. -/
structure Seeking (last : Option String) : Prop where
  phase : v.status.phase = .acquiring
  gauge : v.gauge c = 0
  met : v.met = []
  reported : v.Reported
  last : last = v.sought.getLast?

/-- Leading, with these other holders read meanwhile; the leader reported last is this participant. -/
structure Leading (met : List String) (last : Option String) : Prop where
  leads : v.status.IsLeader
  met : v.met = met
  reported : v.Reported
  last : last = some c.identity

/-- Having left leadership, with the workload still running. -/
structure Leaving (successor : Option String) (last : Option String) : Prop where
  resigned : ¬ v.status.IsLeader
  met : v.met = successor.toList
  foreign : ∀ leader ∈ successor, leader ≠ "" ∧ leader ≠ c.identity
  reported : v.Reported
  last : last = some c.identity

/-- Done with the lease because the caller cancelled. -/
structure Resigned : Prop where
  resigned : ¬ v.status.IsLeader
  gauge : v.gauge c = 0
  met : v.met = []
  reported : v.Reported

/-- No run is in progress. The latest one reported the holder that took over, if it met one. -/
structure Closed : Prop where
  finished : v.running = false
  once : v.met.length ≤ 1
  reported : v.reports = v.sought.destutter (· ≠ ·) ++ v.met

end View

/-- What is seen of a participant at a stage. -/
def Stage.Displays (c : ElectionConfig) (last : Option String) (v : View) : Stage τ → Prop
  | .idle => v.Closed
  | .reading _ | .claiming .. | .waiting _ => v.Ongoing ∧ v.Seeking c last
  | .holding .. | .renewing .. | .rereading _ => v.Ongoing ∧ v.Leading c [] last
  | .stopping _ reason => v.Ongoing ∧ v.Leaving c reason.successor last
  | .releasing _ => v.Ongoing ∧ v.Resigned c

/-- A participant that appears in a log as its stage demands. -/
structure Elector.Appears (c : ElectionConfig) (log : Trace τ) (e : Elector τ) : Prop where
  status : e.status = (view c log).status
  identity : e.status.identity = c.identity
  seemly : log.Seemly c
  displays : e.stage.Displays c e.lastReported (view c log)

/-- A turn of a run that is still in progress, and what is seen by now. -/
structure Turn.Shows (c : ElectionConfig) (base : Trace τ) (t : Turn τ) (v : View) : Prop where
  seen : view c (t.trace base) = v
  status : t.elector.status = v.status
  identity : t.elector.status.identity = c.identity
  ongoing : v.Ongoing
  seemly : (t.trace base).Seemly c

/-- A turn after which the participant appears as its stage demands. -/
def Elector.Turned (c : ElectionConfig) (base : Trace τ) (t : Turn τ) : Prop :=
  t.elector.Appears c (t.trace base)

section Reading

variable {c : ElectionConfig} {last : Option String} {v : View}

theorem Stage.Displays.running {stage : Stage τ} (displays : stage.Displays c last v) :
    v.running = true ↔ stage ≠ .idle := by
  cases stage with
  | idle => simpa using displays.finished
  | reading deadline | claiming deadline record stamped | waiting next | holding held next
  | renewing held record started | rereading held | stopping held reason | releasing deadline =>
      simpa using displays.1.running

theorem Stage.Displays.reported {stage : Stage τ} (displays : stage.Displays c last v) :
    v.reports = v.sought.destutter (· ≠ ·) ++ (if v.running then [] else v.met) ∧
      v.met.length ≤ 1 := by
  cases stage with
  | idle =>
      obtain ⟨finished, once, reported⟩ := displays
      rw [finished]
      exact ⟨reported, once⟩
  | reading deadline | claiming deadline record stamped | waiting next =>
      obtain ⟨ongoing, seeking⟩ := displays
      rw [ongoing.running]
      exact ⟨seeking.reported.trans (List.append_nil _).symm, by simp [seeking.met]⟩
  | holding held next | renewing held record started | rereading held =>
      obtain ⟨ongoing, leading⟩ := displays
      rw [ongoing.running]
      exact ⟨leading.reported.trans (List.append_nil _).symm, by simp [leading.met]⟩
  | stopping held reason =>
      obtain ⟨ongoing, leaving⟩ := displays
      rw [ongoing.running]
      refine ⟨leaving.reported.trans (List.append_nil _).symm, ?_⟩
      rw [leaving.met]
      cases reason.successor <;> simp
  | releasing deadline =>
      obtain ⟨ongoing, resigned⟩ := displays
      rw [ongoing.running]
      exact ⟨resigned.reported.trans (List.append_nil _).symm, by simp [resigned.met]⟩

end Reading

namespace View

variable {c : ElectionConfig} {v : View}

theorem Ongoing.coherent (ongoing : v.Ongoing)
    (leads : v.status.IsLeader → v.status.leader = some c.identity ∧ v.gauge c = 1) :
    v.Coherent c where
  leads := leads
  rests finished := by
    rw [ongoing.running] at finished
    cases finished
  lost lost := by
    rw [ongoing.pending] at lost
    cases lost

theorem Seeking.resigned {last : Option String} (seeking : v.Seeking c last) :
    ¬ v.status.IsLeader := by
  simp [ElectionStatus.IsLeader, seeking.phase]

theorem read_of_own {identity : String} {record : LeaseRecord}
    (own : record.IsVacant ∨ record.holder = identity) : v.read identity record = v := if_pos own

theorem read_of_leading {identity : String} {record : LeaseRecord} (leads : v.status.IsLeader)
    (held : ¬ record.IsVacant) (other : record.holder ≠ identity) :
    v.read identity record = { v with met := v.met ++ [record.holder] } := by
  rw [read, if_neg (not_or.mpr ⟨held, other⟩), if_pos leads]

theorem read_of_resigned {identity : String} {record : LeaseRecord} (resigned : ¬ v.status.IsLeader)
    (held : ¬ record.IsVacant) (other : record.holder ≠ identity) :
    v.read identity record = { v with sought := v.sought ++ [record.holder] } := by
  rw [read, if_neg (not_or.mpr ⟨held, other⟩), if_neg resigned]

/-- Reading the record adds to what was read, and changes nothing that is shown. -/
theorem exists_read (identity : String) (v : View) (record : LeaseRecord) :
    ∃ sought met, v.read identity record = { v with sought, met } := by
  unfold read
  split
  · exact ⟨_, _, rfl⟩
  · split <;> exact ⟨_, _, rfl⟩

@[simp] theorem read_status (identity : String) (v : View) (record : LeaseRecord) :
    (v.read identity record).status = v.status := by
  obtain ⟨sought, met, same⟩ := exists_read identity v record
  rw [same]

@[simp] theorem read_gauge (identity : String) (v : View) (record : LeaseRecord) :
    (v.read identity record).gauge c = v.gauge c := by
  obtain ⟨sought, met, same⟩ := exists_read identity v record
  rw [same, gauge, gauge]

theorem Ongoing.read {identity : String} {record : LeaseRecord} (ongoing : v.Ongoing) :
    (v.read identity record).Ongoing := by
  obtain ⟨sought, met, same⟩ := exists_read identity v record
  rw [same]
  exact ⟨ongoing.running, ongoing.pending⟩

theorem gauge_count {metric : Metric} (counter : metric.IsCounter) (amount : Nat) :
    View.gauge c { v with metrics := v.metrics.add metric c.key.text amount } = v.gauge c :=
  Metrics.read_add_other (Ne.symm counter) v.metrics c.key.text amount

theorem gauge_write (value : Int) :
    View.gauge c { v with metrics := v.metrics.write .isLeader c.key.text value } = value :=
  Metrics.read_write v.metrics .isLeader c.key.text value

end View

theorem Turn.trace_append (t : Turn τ) (base log : Trace τ) :
    t.trace base ++ log = t.trace (base ++ log) := by
  rw [trace_eq, trace_eq, List.append_assoc]

theorem Turn.logIf_elector (t : Turn τ) (line : LogLine) (wanted : Bool) :
    (if wanted then t.emit (.log line) else t).elector = t.elector := by
  split <;> rfl

namespace Turn.Shows

variable {τ : Type} {c : ElectionConfig} {base : Trace τ} {t : Turn τ} {v next : View}

theorem coherent (shows : t.Shows c base v) : v.Coherent c :=
  shows.seen ▸ shows.seemly.coherent _ List.suffix_rfl

theorem leads (shows : t.Shows c base v) (leader : v.status.IsLeader) :
    v.status.leader = some c.identity ∧ v.gauge c = 1 := shows.coherent.leads leader

/-- Only what is published of an elector is seen. -/
theorem withElector (shows : t.Shows c base v) (elector : Elector τ)
    (status : elector.status = t.elector.status) : (Turn.mk elector t.effects).Shows c base v :=
  ⟨shows.seen, status.trans shows.status, status ▸ shows.identity, shows.ongoing, shows.seemly⟩

theorem become (shows : t.Shows c base v) (stage : Stage τ) : (t.become stage).Shows c base v :=
  shows.withElector _ rfl

theorem emit (shows : t.Shows c base v) (effect : Effect τ) (note : v.note c (.did effect) = next)
    (status : next.status = v.status) (ongoing : next.Ongoing)
    (permitted : v.Permits c (.did effect)) (coherent : next.Coherent c) :
    (t.emit effect).Shows c base next where
  seen := by rw [emit_trace, view, shows.seen, note]
  status := shows.status.trans status.symm
  identity := shows.identity
  ongoing := ongoing
  seemly := by
    rw [emit_trace]
    refine shows.seemly.cons ?_ ?_
    · rw [shows.seen]
      exact permitted
    · rw [shows.seen, note]
      exact coherent

/-- An effect that nothing is seen of. -/
theorem unseen (shows : t.Shows c base v) (effect : Effect τ)
    (note : v.note c (.did effect) = v) (permitted : v.Permits c (.did effect)) :
    (t.emit effect).Shows c base v :=
  shows.emit effect note rfl shows.ongoing permitted shows.coherent

theorem logIf (shows : t.Shows c base v) (line : LogLine) (wanted : Bool) :
    (if wanted then t.emit (.log line) else t).Shows c base v := by
  split
  · exact shows.unseen _ rfl trivial
  · exact shows

theorem count (shows : t.Shows c base v) (metric : Metric) (counter : metric.IsCounter) :
    (t.emit (.count metric)).Shows c base
      { v with metrics := v.metrics.add metric c.key.text 1 } := by
  have ongoing : View.Ongoing { v with metrics := v.metrics.add metric c.key.text 1 } :=
    ⟨shows.ongoing.running, shows.ongoing.pending⟩
  refine shows.emit _ rfl rfl ongoing trivial (ongoing.coherent fun leader => ?_)
  rw [View.gauge_count counter]
  exact shows.leads leader

theorem measure (shows : t.Shows c base v) (leading : Bool) (resigned : ¬ v.status.IsLeader) :
    (t.emit (.gauge leading)).Shows c base
      { v with metrics := v.metrics.write .isLeader c.key.text (if leading then 1 else 0) } := by
  have ongoing : View.Ongoing
      { v with metrics := v.metrics.write .isLeader c.key.text (if leading then 1 else 0) } :=
    ⟨shows.ongoing.running, shows.ongoing.pending⟩
  exact shows.emit _ rfl rfl ongoing trivial (ongoing.coherent fun leader => absurd leader resigned)

theorem stop (shows : t.Shows c base v) :
    (t.emit (.hook .stopped)).Shows c base { v with stopped := true } := by
  have ongoing : View.Ongoing { v with stopped := true } :=
    ⟨shows.ongoing.running, shows.ongoing.pending⟩
  exact shows.emit _ rfl rfl ongoing trivial (ongoing.coherent shows.leads)

theorem publish (shows : t.Shows c base v) (status : ElectionStatus)
    (identity : status.identity = t.elector.status.identity)
    (leads : status.IsLeader → status.leader = some c.identity ∧ v.gauge c = 1) :
    (t.publish status).Shows c base { v with status } := by
  unfold Turn.publish
  split
  next same =>
    have unchanged : { v with status } = v := by rw [← same, shows.status]
    rw [unchanged]
    exact shows
  next =>
    have ongoing : View.Ongoing { v with status } :=
      ⟨shows.ongoing.running, shows.ongoing.pending⟩
    have trace : Turn.trace ⟨{ t.elector with status }, t.effects ++ [.publish status]⟩ base =
        .did (.publish status) :: t.trace base := emit_trace t (.publish status) base
    refine ⟨?_, rfl, identity.trans shows.identity, ongoing, ?_⟩
    · rw [trace, view, shows.seen]
      rfl
    · rw [trace]
      refine shows.seemly.cons trivial ?_
      rw [shows.seen]
      exact ongoing.coherent leads

theorem enter (shows : t.Shows c base v) (phase : ElectionPhase)
    (leads : phase.Leads → v.status.leader = some c.identity ∧ v.gauge c = 1) :
    (t.enter phase).Shows c base { v with status := { v.status with phase } } := by
  have identity : v.status.identity = t.elector.status.identity := by rw [shows.status]
  rw [Turn.enter, shows.status]
  exact shows.publish { v.status with phase } identity leads

theorem follow (shows : t.Shows c base v) (leader : Option String)
    (resigned : ¬ v.status.IsLeader) :
    (t.follow leader).Shows c base { v with status := { v.status with leader } } := by
  have identity : v.status.identity = t.elector.status.identity := by rw [shows.status]
  rw [Turn.follow, shows.status]
  exact shows.publish { v.status with leader } identity fun leads => absurd leads resigned

/-- A leader that was not reported last is reported. -/
theorem report (shows : t.Shows c base v) {leader : String} (named : leader ≠ "")
    (foreign : leader ≠ c.identity) (resigned : ¬ v.status.IsLeader)
    (stopped : v.met ≠ [] → v.stopped = true)
    (unlike : t.elector.lastReported ≠ some leader) : ∃ metrics, (t.report leader).Shows c base
      { v with metrics, reports := v.reports ++ [leader] } ∧
        metrics.read .isLeader c.key.text = v.gauge c ∧
          (t.report leader).elector.lastReported = some leader := by
  have apart : ¬ (leader = "" ∨ leader = t.identity ∨ t.elector.lastReported = some leader) := by
    have identity : t.identity = c.identity := shows.identity
    rw [identity]
    exact fun same => same.elim named fun same => same.elim foreign unlike
  have counter : Metric.changesObserved.IsCounter := by decide
  have counted := (shows.count .changesObserved counter).withElector
    { t.elector with lastReported := some leader } rfl
  have ongoing : View.Ongoing { v with
      metrics := v.metrics.add .changesObserved c.key.text 1
      reports := v.reports ++ [leader] } := ⟨shows.ongoing.running, shows.ongoing.pending⟩
  refine ⟨_, ?_, View.gauge_count counter 1, ?_⟩
  · rw [Turn.report, if_neg apart]
    exact counted.emit (.hook (.newLeader leader)) rfl rfl ongoing ⟨named, foreign, stopped⟩
      (ongoing.coherent fun leads => absurd leads resigned)
  · rw [Turn.report, if_neg apart]
    rfl

/-- The turn is over, and the stage fits what is seen. -/
theorem appears (shows : t.Shows c base v)
    (displays : t.elector.stage.Displays c t.elector.lastReported v) :
    t.elector.Appears c (t.trace base) where
  status := shows.status.trans (congrArg View.status shows.seen.symm)
  identity := shows.identity
  seemly := shows.seemly
  displays := by
    rw [shows.seen]
    exact displays

end Turn.Shows

end LeaseElection
