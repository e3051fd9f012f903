import LeaseElection.Proofs.Course.Account

namespace LeaseElection

/-- Whether a phase may be published right after another. -/
def ElectionPhase.Precedes : ElectionPhase → ElectionPhase → Prop
  | .idle, .acquiring => True
  | .acquiring, .leading | .acquiring, .releasing | .acquiring, .idle => True
  | .leading, .renewing | .renewing, .leading => True
  | .leading, .releasing | .renewing, .releasing => True
  | .releasing, .idle => True
  | _, _ => False

theorem ElectionPhase.Leads.precedes {phase other : ElectionPhase} (leads : phase.Leads)
    (still : other.Leads) : other = phase ∨ phase.Precedes other := by
  rcases leads with rfl | rfl <;> rcases still with rfl | rfl <;> simp [ElectionPhase.Precedes]

/-- Whether a signal brings a record that this participant no longer holds. -/
def Signal.Supplants (identity : String) (signal : Signal τ) : Prop :=
  ∃ current, signal = .answered (.found current) ∧ ¬ current.record.IsHeldBy identity

/-- Whether a signal says that the stored record is not the one to be replaced. -/
def Signal.Conflicts (signal : Signal τ) : Prop :=
  ∃ error, signal = .answered (.failed error) ∧ error.IsConflict

/-- Whether a call gives the lease up. -/
def StoreCall.IsRelease (call : StoreCall τ) : Prop :=
  ∃ record token, call = .update record token ∧ record.IsVacant

namespace Account

variable (c : ElectionConfig) (d : Account τ)

/-- Why leadership may end: it is lost where the record went to somebody else, or where the renew
deadline has passed and the caller did not cancel; else the caller did cancel. -/
def MayLeave : Prop :=
  ∃ m signal begun, d.told = some (m, signal) ∧ d.secured = some begun ∧
    (d.lost = true ↔ signal.Supplants c.identity ∨
      (m.cancelled = false ∧ begun + c.renewDeadline.nanoseconds ≤ m.now)) ∧
    (d.lost = false → m.cancelled = true)

/-- Whether a call may be begun: none once leadership is lost, and only the one that gives the lease
up once the caller has cancelled. A leader reads the record only where a write met with a
conflict. -/
def MayCall (call : StoreCall τ) : Prop :=
  d.lost = false ∧
    (d.cancelled = true → d.departed = false ∧ c.releaseOnCancel = true ∧ call.IsRelease ∧
      d.secured ≠ none ∧ (d.started = true → d.stopped = true)) ∧
    (d.phase.Leads → call = .get → ∃ m signal, d.told = some (m, signal) ∧ signal.Conflicts)

def MayReturn (outcome : ElectionOutcome) : Prop :=
  (d.started = true → d.stopped = true) ∧
    (outcome = .leadershipLost ↔ d.left = some true) ∧
    (d.lost = true → outcome = .leadershipLost)

def Licit : Event τ → Prop
  | .did (.publish status) =>
      (status.phase = d.phase ∨ d.phase.Precedes status.phase) ∧
        (d.phase.Leads → ¬ status.phase.Leads → d.MayLeave c)
  | .did (.hook (.started _)) => d.secured ≠ none ∧ d.started = false
  | .did (.hook .stopped) =>
      d.started = true ∧ d.stopped = false ∧ d.workCancelled = true ∧ d.workEnded = true
  | .did (.call call) => d.MayCall c call
  | .did (.returned outcome) => d.MayReturn outcome
  | .restarted => False
  | _ => True

end Account

/-- Every event of a trace was licit when it happened. -/
def Lawful (c : ElectionConfig) : Trace τ → Prop
  | [] => True
  | event :: past => (account c.identity past).Licit c event ∧ Lawful c past

theorem Lawful.tail {c : ElectionConfig} {past trace : Trace τ} (lawful : Lawful c trace)
    (tail : past <:+ trace) : Lawful c past := by
  obtain ⟨later, rfl⟩ := tail
  induction later with
  | nil => exact lawful
  | cons event later ih => exact ih lawful.2

theorem Lawful.licit {c : ElectionConfig} {event : Event τ} {past trace : Trace τ}
    (lawful : Lawful c trace) (happened : event :: past <:+ trace) :
    (account c.identity past).Licit c event := (lawful.tail happened).1

section Effects

variable (identity : String) (d : Account τ)

open Account Event

attribute [local simp] note awaitedAfter securedAfter leftAfter phase? signal? starts stops
  cancelsWork endsWork cancels loses calls

theorem note_call (call : StoreCall τ) : d.note identity (.did (.call call)) =
    { d with awaited := some (call, d.clock), departed := d.departed || d.cancelled } := by
  simp

theorem note_abandon : d.note identity (.did .abandon) = { d with awaited := none } := by
  simp

theorem note_publish (status : ElectionStatus) : d.note identity (.did (.publish status)) =
    { d with
      phase := status.phase
      left := if d.phase.Leads ∧ ¬ status.phase.Leads then some d.lost else d.left } := by
  simp

theorem note_started (cancelled : Bool) : d.note identity (.did (.hook (.started cancelled))) =
    { d with started := true } := by
  simp

theorem note_stopped : d.note identity (.did (.hook .stopped)) = { d with stopped := true } := by
  simp

theorem note_cancelWork :
    d.note identity (.did .cancelWork) = { d with workCancelled := true } := by
  simp

theorem note_log (line : LogLine) :
    d.note identity (.did (.log line)) = { d with lost := d.lost || decide line.IsLoss } := by
  simp

theorem note_returned (outcome : ElectionOutcome) :
    d.note identity (.did (.returned outcome)) = d := by
  simp

/-- An effect that no question about a run is about. -/
def Effect.IsAside : Effect τ → Prop
  | .hook (.newLeader _) | .count _ | .gauge _ => True
  | .log line => ¬ line.IsLoss
  | _ => False

theorem note_aside {effect : Effect τ} (aside : effect.IsAside) :
    d.note identity (.did effect) = d := by
  unfold Effect.IsAside at aside
  split at aside <;> simp_all

theorem licit_aside {c : ElectionConfig} {effect : Effect τ} (aside : effect.IsAside) :
    d.Licit c (.did effect) := by
  unfold Effect.IsAside at aside
  split at aside <;> simp_all [Licit]

end Effects

namespace Account

/-- Not leading yet; a claim may have been acknowledged. -/
structure Seeking (secured : Option Nat) (d : Account τ) : Prop where
  phase : d.phase = .acquiring
  secured : d.secured = secured
  started : d.started = false
  stopped : d.stopped = false
  kept : d.lost = false
  departed : d.departed = false
  left : d.left = none

/-- Nothing has happened in this run, but that it may be cancelled. -/
structure Fresh (d : Account τ) : Prop where
  phase : d.phase = .idle
  secured : d.secured = none
  started : d.started = false
  stopped : d.stopped = false
  kept : d.lost = false
  departed : d.departed = false
  left : d.left = none

structure Leading (held : Held τ) (d : Account τ) : Prop where
  leads : d.phase.Leads
  secured : d.secured = some held.stamped
  started : d.started = true
  stopped : d.stopped = false
  departed : d.departed = false

/-- The workload runs, or its end has been heard of. -/
def Staffed (work : WorkState) (d : Account τ) : Prop :=
  work = .running ∨ ∃ panicked, work = .ended panicked ∧ d.workEnded = true

/-- Leading by a claim, and set to go on. -/
structure OnDuty (c : ElectionConfig) (held : Held τ) (work : WorkState) (d : Account τ) :
    Prop where
  own : held.record.holder = c.identity
  leading : d.Leading held
  kept : d.lost = false
  staffed : d.Staffed work

/-- Having left leadership, with the workload cancelled but not yet stopped. -/
structure Quitting (reason : StopReason) (d : Account τ) : Prop where
  phase : d.phase = .releasing
  secured : d.secured ≠ none
  started : d.started = true
  stopped : d.stopped = false
  workCancelled : d.workCancelled = true
  departed : d.departed = false
  lost : d.lost = true ↔ reason ≠ .cancelled
  left : d.left = some d.lost
  cancelled : d.lost = false → d.cancelled = true

/-- Cancelled by the caller, and about to give the lease up. -/
structure Resigned (d : Account τ) : Prop where
  secured : d.secured ≠ none
  stopped : d.started = true → d.stopped = true
  kept : d.lost = false
  departed : d.departed = false
  left : d.left ≠ some true
  cancelled : d.cancelled = true

/-- Done with the lease, whatever becomes of the release. -/
structure Released (d : Account τ) : Prop where
  phase : d.phase = .releasing
  stopped : d.started = true → d.stopped = true
  kept : d.lost = false
  left : d.left ≠ some true

theorem Seeking.not_leads {d : Account τ} {secured : Option Nat} {p : Prop}
    (seeking : d.Seeking secured) : d.phase.Leads → p := by
  intro leads
  rw [seeking.phase] at leads
  cases leads <;> contradiction

theorem OnDuty.enter {c : ElectionConfig} {held : Held τ} {work : WorkState} {d : Account τ}
    (duty : d.OnDuty c held work) {phase : ElectionPhase} (leads : phase.Leads) :
    ({ d with phase } : Account τ).OnDuty c held work where
  own := duty.own
  leading :=
    ⟨leads, duty.leading.secured, duty.leading.started, duty.leading.stopped,
      duty.leading.departed⟩
  kept := duty.kept
  staffed := duty.staffed

section Aside

variable {d : Account τ} (told : Option (Moment × Signal τ))
  (awaited : Option (StoreCall τ × Nat)) (workEnded cancelled : Bool)

theorem Seeking.aside {secured : Option Nat} (seeking : d.Seeking secured) :
    ({ d with told, awaited, workEnded, cancelled } : Account τ).Seeking secured :=
  ⟨seeking.phase, seeking.secured, seeking.started, seeking.stopped, seeking.kept,
    seeking.departed, seeking.left⟩

theorem Leading.aside {held : Held τ} (leading : d.Leading held) (lost : Bool) :
    ({ d with told, awaited, workEnded, cancelled, lost } : Account τ).Leading held :=
  ⟨leading.leads, leading.secured, leading.started, leading.stopped, leading.departed⟩

theorem OnDuty.aside {c : ElectionConfig} {held : Held τ} {work : WorkState}
    (duty : d.OnDuty c held work) :
    ({ d with told, awaited, cancelled } : Account τ).OnDuty c held work where
  own := duty.own
  leading := duty.leading.aside told awaited d.workEnded cancelled d.lost
  kept := duty.kept
  staffed := duty.staffed

end Aside

/-- The call under way is a claim that was begun at some time. -/
def Claiming (c : ElectionConfig) (begun : Nat) (d : Account τ) : Prop :=
  ∃ call, d.awaited = some (call, begun) ∧ call.Claims c.identity

end Account

/-- What the account of a run says where the run is at this stage. -/
def Stage.Fits (c : ElectionConfig) (work : WorkState) (d : Account τ) : Stage τ → Prop
  | .idle => d.phase = .idle ∧ (d.started = true → d.stopped = true)
  | .reading _ | .waiting _ => d.Seeking none
  | .claiming _ record stamped =>
      d.Seeking none ∧ d.Claiming c stamped ∧ record.holder = c.identity
  | .holding held _ | .rereading held => d.OnDuty c held work
  | .renewing held record started =>
      d.OnDuty c held work ∧ d.Claiming c started ∧ record.holder = c.identity
  | .stopping _ reason => d.Quitting reason ∧ work = .running
  | .releasing _ => d.Released

/-- A turn in reaction to a signal, all of whose effects so far were licit, with their account. -/
structure Turn.Sound (c : ElectionConfig) (m : Moment) (signal : Signal τ) (past : Trace τ)
    (t : Turn τ) (d : Account τ) : Prop where
  lawful : Lawful c (t.trace past)
  account : account c.identity (t.trace past) = d
  identity : t.elector.status.identity = c.identity
  phase : t.elector.status.phase = d.phase
  told : d.told = some (m, signal)
  cancelled : d.cancelled = m.cancelled

/-- A finished turn: all it did was licit, and the account fits the stage that was entered. -/
structure Turn.Settled (c : ElectionConfig) (m : Moment) (past : Trace τ) (t : Turn τ) : Prop where
  lawful : Lawful c (t.trace past)
  identity : t.elector.status.identity = c.identity
  phase : t.elector.status.phase = (account c.identity (t.trace past)).phase
  cancelled : (account c.identity (t.trace past)).cancelled = m.cancelled
  fits : t.elector.stage.Fits c t.elector.work (account c.identity (t.trace past))

namespace Turn

variable {c : ElectionConfig} {m : Moment} {signal : Signal τ} {past : Trace τ} {t : Turn τ}
  {d : Account τ}

@[simp] theorem emit_trace (t : Turn τ) (effect : Effect τ) (past : Trace τ) :
    (t.emit effect).trace past = .did effect :: t.trace past := by
  simp [trace, emit]

namespace Sound

/-- Only what is published of an elector matters. -/
theorem withElector (sound : t.Sound c m signal past d) (elector : Elector τ)
    (status : elector.status = t.elector.status) :
    (Turn.mk elector t.effects).Sound c m signal past d :=
  ⟨sound.lawful, sound.account, status ▸ sound.identity, status ▸ sound.phase, sound.told,
    sound.cancelled⟩

theorem become (sound : t.Sound c m signal past d) (stage : Stage τ) :
    (t.become stage).Sound c m signal past d := sound.withElector _ rfl

theorem emit (sound : t.Sound c m signal past d) (effect : Effect τ)
    (licit : d.Licit c (.did effect)) (mute : (Event.did effect).phase? = none) :
    (t.emit effect).Sound c m signal past (d.note c.identity (.did effect)) where
  lawful := by
    rw [emit_trace]
    exact ⟨sound.account ▸ licit, sound.lawful⟩
  account := by rw [emit_trace, account_cons, sound.account]
  identity := sound.identity
  phase := by simpa [Account.note, mute] using sound.phase
  told := sound.told
  cancelled := by simpa [Account.note, Event.cancels] using sound.cancelled

theorem aside (sound : t.Sound c m signal past d) (effect : Effect τ) (aside : effect.IsAside) :
    (t.emit effect).Sound c m signal past d := by
  have mute : (Event.did effect).phase? = none := by
    cases effect <;> simp_all [Effect.IsAside, Event.phase?]
  have emitted := sound.emit effect (licit_aside d aside) mute
  rwa [note_aside c.identity d aside] at emitted

theorem abandon (sound : t.Sound c m signal past d) :
    (t.emit .abandon).Sound c m signal past { d with awaited := none } := by
  have emitted := sound.emit .abandon trivial rfl
  rwa [note_abandon] at emitted

theorem publish (sound : t.Sound c m signal past d) (status : ElectionStatus)
    (identity : status.identity = t.elector.status.identity)
    (order : status.phase = d.phase ∨ d.phase.Precedes status.phase)
    (leave : d.phase.Leads → ¬ status.phase.Leads → d.MayLeave c) :
    (t.publish status).Sound c m signal past
      { d with
        phase := status.phase
        left := if d.phase.Leads ∧ ¬ status.phase.Leads then some d.lost else d.left } := by
  unfold Turn.publish
  split
  next same =>
    have phase : status.phase = d.phase := by rw [← same, sound.phase]
    have unchanged : ¬ (d.phase.Leads ∧ ¬ status.phase.Leads) := by simp [phase]
    simpa [unchanged, phase] using sound
  next =>
    refine ⟨?_, ?_, identity.trans sound.identity, rfl, sound.told, sound.cancelled⟩
    · simp only [trace, List.foldl_append, List.foldl_cons, List.foldl_nil]
      refine ⟨?_, sound.lawful⟩
      change (LeaseElection.account c.identity (t.trace past)).Licit c _
      rw [sound.account]
      exact ⟨order, leave⟩
    · simp only [trace, List.foldl_append, List.foldl_cons, List.foldl_nil, account_cons]
      change (LeaseElection.account c.identity (t.trace past)).note c.identity _ = _
      rw [sound.account, note_publish]

theorem enter (sound : t.Sound c m signal past d) (phase : ElectionPhase)
    (order : phase = d.phase ∨ d.phase.Precedes phase) (stays : d.phase.Leads → phase.Leads) :
    (t.enter phase).Sound c m signal past { d with phase } := by
  have published := sound.publish { t.elector.status with phase } rfl order
    (fun led leaves => absurd (stays led) leaves)
  have unchanged : ¬ (d.phase.Leads ∧ ¬ phase.Leads) := fun leaves => leaves.2 (stays leaves.1)
  simp only [if_neg unchanged] at published
  exact published

theorem enterReleasing (sound : t.Sound c m signal past d) (leads : d.phase.Leads)
    (leave : d.MayLeave c) :
    (t.enter .releasing).Sound c m signal past
      { d with phase := .releasing, left := some d.lost } := by
  have order : d.phase.Precedes .releasing := by
    rcases leads with leading | renewing
    · simp [leading, ElectionPhase.Precedes]
    · simp [renewing, ElectionPhase.Precedes]
  have published := sound.publish { t.elector.status with phase := .releasing } rfl (.inr order)
    (fun _ _ => leave)
  have left : d.phase.Leads ∧ ¬ ElectionPhase.releasing.Leads := ⟨leads, by decide⟩
  simp only [if_pos left] at published
  exact published

theorem follow (sound : t.Sound c m signal past d) (leader : Option String) :
    (t.follow leader).Sound c m signal past d := by
  have published := sound.publish { t.elector.status with leader } rfl (.inl sound.phase)
    (fun led leaves => absurd (sound.phase ▸ led) leaves)
  have unchanged : ¬ (d.phase.Leads ∧ ¬ d.phase.Leads) := fun leaves => leaves.2 leaves.1
  simp only [sound.phase, if_neg unchanged] at published
  simpa only [Turn.follow, sound.phase] using published

theorem report (sound : t.Sound c m signal past d) (leader : String) :
    (t.report leader).Sound c m signal past d := by
  unfold Turn.report
  split
  · exact sound
  · have counted := sound.aside (.count .changesObserved) trivial
    have noted := counted.withElector { t.elector with lastReported := some leader } rfl
    exact noted.aside (.hook (.newLeader leader)) trivial

theorem call (sound : t.Sound c m signal past d) (free : m.cancelled = false)
    (kept : d.lost = false) (call : StoreCall τ)
    (called : d.phase.Leads → call = .get → signal.Conflicts) :
    (t.emit (.call call)).Sound c m signal past { d with awaited := some (call, m.now) } := by
  have free : d.cancelled = false := sound.cancelled.trans free
  have emitted := sound.emit (.call call)
    ⟨kept, by simp [free], fun leads read => ⟨m, signal, sound.told, called leads read⟩⟩ rfl
  simpa [note_call, free, Account.clock, sound.told] using emitted

theorem release (sound : t.Sound c m signal past d) {call : StoreCall τ} (release : call.IsRelease)
    (wanted : c.releaseOnCancel = true) (resigned : d.Resigned) :
    (t.emit (.call call)).Sound c m signal past
      { d with awaited := some (call, m.now), departed := true } := by
  have writes : call ≠ .get := by
    rintro rfl
    obtain ⟨record, token, same, -⟩ := release
    cases same
  have emitted := sound.emit (.call call)
    ⟨resigned.kept, fun _ =>
      ⟨resigned.departed, wanted, release, resigned.secured, resigned.stopped⟩,
      fun _ read => absurd read writes⟩ rfl
  simpa [note_call, resigned.cancelled, Account.clock, sound.told] using emitted

theorem settled (sound : t.Sound c m signal past d)
    (fits : t.elector.stage.Fits c t.elector.work d) : t.Settled c m past where
  lawful := sound.lawful
  identity := sound.identity
  phase := by rw [sound.account, sound.phase]
  cancelled := by rw [sound.account, sound.cancelled]
  fits := by rwa [sound.account]

end Sound

end Turn

end LeaseElection
