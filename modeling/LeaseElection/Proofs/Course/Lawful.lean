import LeaseElection.Proofs.Course.Reactions

namespace LeaseElection

namespace Account

variable {c : ElectionConfig} {m : Moment} {signal : Signal τ} {identity : String}
  {d : Account τ} {held : Held τ} {work : WorkState}

theorem note_told (unwritten : ∀ token, signal ≠ .answered (.written token)) :
    d.note identity (.told m signal) =
      { d with
        told := some (m, signal)
        awaited := d.awaitedAfter (.told m signal)
        workEnded := d.workEnded || (Event.told m signal).endsWork
        cancelled := d.cancelled || m.cancelled } := by
  have secured : d.securedAfter identity (.told m signal) = d.secured := by
    unfold securedAfter
    split
    next token same => simp_all
    · rfl
  simp [note, secured, leftAfter, Event.phase?, Event.signal?, Event.starts, Event.stops,
    Event.cancelsWork, Event.cancels, Event.loses, Event.calls]

theorem note_acknowledged {begun : Nat} {token : τ} (claiming : d.Claiming c begun) :
    d.note c.identity (.told m (.answered (.written token))) =
      { d with
        told := some (m, .answered (.written token))
        awaited := none
        secured := some begun
        cancelled := d.cancelled || m.cancelled } := by
  obtain ⟨call, awaited, claims⟩ := claiming
  simp [note, securedAfter, awaitedAfter, awaited, claims, leftAfter, Event.phase?, Event.signal?,
    Event.starts, Event.stops, Event.cancelsWork, Event.endsWork, Event.cancels, Event.loses,
    Event.calls]

theorem Seeking.told {secured : Option Nat} (seeking : d.Seeking secured)
    (unwritten : ∀ token, signal ≠ .answered (.written token)) :
    (d.note identity (.told m signal)).Seeking secured := by
  rw [note_told unwritten]
  exact seeking.aside _ _ _ _

theorem Seeking.acknowledged {begun : Nat} {token : τ} (seeking : d.Seeking none)
    (claiming : d.Claiming c begun) :
    (d.note c.identity (.told m (.answered (.written token)))).Seeking (some begun) := by
  rw [note_acknowledged claiming]
  exact ⟨seeking.phase, rfl, seeking.started, seeking.stopped, seeking.kept, seeking.departed,
    seeking.left⟩

theorem Staffed.told (staffed : d.Staffed work) (identity : String) (m : Moment)
    (signal : Signal τ) : (d.note identity (.told m signal)).Staffed work := by
  rcases staffed with running | ⟨panicked, finished, ended⟩
  · exact .inl running
  · exact .inr ⟨panicked, finished, by simp [note, ended]⟩

theorem OnDuty.told (duty : d.OnDuty c held work)
    (unwritten : ∀ token, signal ≠ .answered (.written token)) :
    (d.note c.identity (.told m signal)).OnDuty c held work := by
  have staffed := duty.staffed.told c.identity m signal
  rw [note_told unwritten] at staffed ⊢
  exact ⟨duty.own, duty.leading.aside _ _ _ _ _, duty.kept, staffed⟩

/-- An acknowledged renewal secures the lease from when it was begun. -/
theorem OnDuty.acknowledged {record : LeaseRecord} {begun : Nat} {token : τ}
    (duty : d.OnDuty c held work) (claiming : d.Claiming c begun)
    (own : record.holder = c.identity) :
    (d.note c.identity (.told m (.answered (.written token)))).OnDuty c ⟨record, token, begun⟩
      work := by
  have staffed := duty.staffed.told c.identity m (.answered (.written token))
  have leading := duty.leading
  rw [note_acknowledged claiming] at staffed ⊢
  exact
    { own
      leading := ⟨leading.leads, rfl, leading.started, leading.stopped, leading.departed⟩
      kept := duty.kept
      staffed }

theorem Quitting.told {reason : StopReason} (quitting : d.Quitting reason)
    (unwritten : ∀ token, signal ≠ .answered (.written token)) :
    (d.note identity (.told m signal)).Quitting reason := by
  rw [note_told unwritten]
  exact
    { phase := quitting.phase
      secured := quitting.secured
      started := quitting.started
      stopped := quitting.stopped
      workCancelled := quitting.workCancelled
      departed := quitting.departed
      lost := quitting.lost
      left := quitting.left
      cancelled := fun kept => by simp [quitting.cancelled kept] }

theorem Released.told (released : d.Released) (m : Moment) (signal : Signal τ) :
    (d.note identity (.told m signal)).Released :=
  ⟨released.phase, by simpa [note, Event.starts, Event.stops] using released.stopped,
    by simpa [note, Event.loses] using released.kept, released.left⟩

theorem Claiming.told {begun : Nat} (claiming : d.Claiming c begun)
    (unasked : ∀ answer, signal ≠ .answered answer) :
    (d.note c.identity (.told m signal)).Claiming c begun := by
  obtain ⟨call, awaited, claims⟩ := claiming
  refine ⟨call, ?_, claims⟩
  cases signal with
  | answered answer => exact absurd rfl (unasked answer)
  | start | cancelled | timer | workEnded panicked => exact awaited

end Account

theorem Stage.Fits.told {c : ElectionConfig} {m : Moment} {signal : Signal τ} {d : Account τ}
    {work : WorkState} {s : Stage τ} (fits : s.Fits c work d)
    (unasked : ∀ answer, signal ≠ .answered answer) :
    s.Fits c work (d.note c.identity (.told m signal)) := by
  have unwritten (token : τ) : signal ≠ .answered (.written token) := unasked _
  cases s with
  | idle => exact ⟨fits.1, by simpa [Account.note, Event.starts, Event.stops] using fits.2⟩
  | reading deadline | waiting next => exact Account.Seeking.told fits unwritten
  | claiming deadline record stamped =>
      exact ⟨fits.1.told unwritten, fits.2.1.told unasked, fits.2.2⟩
  | holding held next | rereading held => exact Account.OnDuty.told fits unwritten
  | renewing held record started =>
      exact ⟨fits.1.told unwritten, fits.2.1.told unasked, fits.2.2⟩
  | stopping held reason => exact ⟨fits.1.told unwritten, fits.2⟩
  | releasing deadline => exact Account.Released.told fits m signal

theorem Stage.Fits.cancelled {c : ElectionConfig} {d : Account τ} {work : WorkState} {s : Stage τ}
    (fits : s.Fits c work d) : s.Fits c work (d.note c.identity .cancelled) := by
  have note : d.note c.identity .cancelled = { d with cancelled := true } := by
    simp [Account.note, Account.awaitedAfter, Account.securedAfter, Account.leftAfter,
      Event.phase?, Event.signal?, Event.starts, Event.stops, Event.cancelsWork, Event.endsWork,
      Event.cancels, Event.loses, Event.calls]
  rw [note]
  cases s with
  | idle => exact fits
  | reading deadline | waiting next => exact Account.Seeking.aside _ _ _ _ fits
  | claiming deadline record stamped => exact ⟨fits.1.aside _ _ _ _, fits.2⟩
  | holding held next | rereading held => exact Account.OnDuty.aside _ _ _ fits
  | renewing held record started => exact ⟨fits.1.aside _ _ _, fits.2⟩
  | stopping held reason =>
      have quitting := fits.1
      refine ⟨?_, fits.2⟩
      exact
        { phase := quitting.phase
          secured := quitting.secured
          started := quitting.started
          stopped := quitting.stopped
          workCancelled := quitting.workCancelled
          departed := quitting.departed
          lost := quitting.lost
          left := quitting.left
          cancelled := fun _ => rfl }
  | releasing deadline => exact ⟨fits.phase, fits.stopped, fits.kept, fits.left⟩

theorem Stage.Fits.seeking {c : ElectionConfig} {d : Account τ} {work : WorkState} {s : Stage τ}
    (fits : s.Fits c work d) (seeks : s.Seeks) : d.Seeking none := by
  cases s with
  | reading deadline | waiting next => exact fits
  | claiming deadline record stamped => exact fits.1
  | _ => exact seeks.elim

theorem Stage.Fits.onDuty {c : ElectionConfig} {d : Account τ} {work : WorkState} {s : Stage τ}
    {held : Held τ} (fits : s.Fits c work d) (leads : s.held? = some held) :
    d.OnDuty c held work := by
  cases s with
  | holding held next | rereading held =>
      cases leads
      exact fits
  | renewing held record started =>
      cases leads
      exact fits.1
  | _ => cases leads

/-- A leader whose workload has ended goes on as before. -/
theorem Stage.Fits.workEnded {c : ElectionConfig} {d : Account τ} {work : WorkState} {s : Stage τ}
    (fits : s.Fits c work d) (ended : d.workEnded = true) (panicked : Bool)
    (going : ∀ held reason, s ≠ .stopping held reason) : s.Fits c (.ended panicked) d := by
  have staffed : d.Staffed (.ended panicked) := .inr ⟨panicked, rfl, ended⟩
  cases s with
  | stopping held reason => exact absurd rfl (going held reason)
  | holding held next | rereading held => exact ⟨fits.own, fits.leading, fits.kept, staffed⟩
  | renewing held record started =>
      exact ⟨⟨fits.1.own, fits.1.leading, fits.1.kept, staffed⟩, fits.2⟩
  | idle | reading deadline | claiming deadline record stamped | waiting next
  | releasing deadline => exact fits

theorem Signal.Cancels.loyal {m : Moment} {signal : Signal τ} (cancels : signal.Cancels m)
    (identity : String) : ¬ signal.Supplants identity := by
  rintro ⟨current, rfl, -⟩
  exact cancels

namespace Elector

variable {τ : Type} {c : ElectionConfig} {m : Moment} {signal : Signal τ} {past : Trace τ}
  {t : Turn τ} {e : Elector τ} {d : Account τ} {held : Held τ}

theorem finish_released (sound : t.Sound c m signal past d) (released : d.Released) :
    (finish t .cancelled).Settled c m past := by
  refine finish_settled sound .cancelled (.inr released.phase) ⟨released.stopped, ?_, ?_⟩
  · simp [released.left]
  · simp [released.kept]

/-- A release that fails or comes too late ends the run like one that is acknowledged. -/
theorem releaseFailed_settled (sound : t.Sound c m signal past d) (released : d.Released)
    {text : String} (mild : ¬ LogLine.IsLoss (.warn text)) :
    (finish ((t.emit (.count .releaseFailures)).emit (.log (.warn text))) .cancelled).Settled
      c m past := by
  have counted := sound.aside (.count .releaseFailures) trivial
  have warned := counted.aside (.log (.warn text)) mild
  exact finish_released warned released

theorem renewed_settled (sound : t.Sound c m signal past d) (duty : d.OnDuty c held t.elector.work)
    (loyal : ¬ signal.Supplants c.identity) :
    (hold c m (t.enter .leading) held).Settled c m past := by
  have order := duty.leading.leads.precedes (.inl rfl)
  have entered := sound.enter .leading order fun _ => .inl rfl
  have work : (t.enter .leading).elector.work = t.elector.work := by simp
  exact hold_settled entered (work ▸ duty.enter (.inl rfl)) loyal

/-- A call that has to be given up is no longer awaited. -/
theorem Begins.sound (begins : e.Begins t) (sound : (Turn.mk e []).Sound c m signal past d) :
    ∃ awaited, t.Sound c m signal past { d with awaited } := by
  cases begins with
  | plain => exact ⟨d.awaited, sound⟩
  | abandoning => exact ⟨none, sound.abandon⟩

/-- What a run is told leads to a settled turn. -/
theorem step_settled [DecidableEq τ]
    (sound : (Turn.mk e []).Sound c m signal past (d.note c.identity (.told m signal)))
    (fits : e.stage.Fits c e.work d)
    (fresh : signal = .start → (d.note c.identity (.told m signal)).Fresh)
    (cancelled : signal = .cancelled → m.cancelled = true)
    (expected : ∀ answer, signal = .answered answer → e.stage.Expects answer) :
    (e.step c m signal).Settled c m past := by
  have reacts := step_reacts c m e signal
  generalize stage : e.stage = s at fits reacts
  have told (unasked : ∀ answer, signal ≠ .answered answer) :
      s.Fits c e.work (d.note c.identity (.told m signal)) := fits.told unasked
  generalize e.step c m signal = t at reacts ⊢
  cases reacts with
  | ignores ignores =>
      subst stage
      refine sound.settled (told ?_)
      rintro answer rfl
      exact ignores (expected answer rfl)
  | starts =>
      have fresh := fresh rfl
      have entered := (sound.withElector e.cleared rfl).enter .acquiring
        (.inr (by simp [fresh.phase, ElectionPhase.Precedes]))
        (by simp [fresh.phase, ElectionPhase.Leads])
      exact attempt_settled entered ⟨rfl, fresh.secured, fresh.started, fresh.stopped, fresh.kept,
        fresh.departed, fresh.left⟩
  | withdraws begins seeks cancels =>
      obtain ⟨awaited, begun⟩ := begins.sound sound
      exact finish_seeking begun (((told cancels.unasked).seeking seeks).aside _ _ _ _)
  | quits begins leads cancels =>
      obtain ⟨awaited, begun⟩ := begins.sound sound
      have duty := (told cancels.unasked).onDuty leads
      refine quit_settled begun (begins.elector ▸ duty.aside _ _ _) ?_ (cancels.loyal _)
      exact cancels.noticed.elim id cancelled
  | retries => exact attempt_settled sound (Account.Seeking.told fits (by simp))
  | rests begins seeks fails =>
      obtain ⟨awaited, begun⟩ := begins.sound sound
      have seeking : (d.note c.identity (.told m signal)).Seeking none :=
        (fits.seeking seeks).told fails.unwritten
      exact rest_settled begun (seeking.aside _ _ _ _)
  | considers => exact consider_settled sound (Account.Seeking.told fits (by simp)) _ _
  | founds missing => exact found_settled sound (Account.Seeking.told fits (by simp)) _
  | acquires =>
      obtain ⟨seeking, claiming, own⟩ := fits
      exact acquired_settled sound own (seeking.acknowledged claiming) (by simp [Signal.Supplants])
  | renews free early => exact renew_settled sound (Account.OnDuty.told fits (by simp)) free
  | expires begins leads late =>
      obtain ⟨awaited, begun⟩ := begins.sound sound
      have duty := (told (by simp)).onDuty leads
      exact hold_settled begun (begins.elector ▸ duty.aside _ _ _) (by simp [Signal.Supplants])
  | goesUnrenewed late =>
      exact renewalFailed_settled sound.abandon ((told (by simp)).1.aside _ _ _)
        (by simp [Signal.Supplants]) false (by simp)
  | renewed =>
      obtain ⟨duty, claiming, own⟩ := fits
      exact renewed_settled sound (duty.acknowledged claiming own) (by simp [Signal.Supplants])
  | @fails _ _ _ error =>
      exact renewalFailed_settled sound (fits.1.told (by simp)) (by simp [Signal.Supplants]) _
        fun conflict => ⟨error, rfl, of_decide_eq_true conflict⟩
  | reconsiders => exact reconsider_settled sound (Account.OnDuty.told fits (by simp))
  | resumes =>
      exact hold_settled sound (Account.OnDuty.told fits (by simp)) (by simp [Signal.Supplants])
  | released => exact finish_released (sound.follow none) (Account.Released.told fits m _)
  | goesUnreleased begins text fails =>
      obtain ⟨awaited, begun⟩ := begins.sound sound
      have released : (d.note c.identity (.told m signal)).Released :=
        Account.Released.told fits m signal
      refine releaseFailed_settled begun
        ⟨released.phase, released.stopped, released.kept, released.left⟩ ?_
      rcases text with rfl | rfl <;> decide
  | @notes _ panicked running going =>
      subst stage
      exact (sound.withElector { e with work := .ended panicked } rfl).settled
        ((told (by simp)).workEnded (by simp [Account.note, Event.endsWork]) panicked going)
  | stepsDown running =>
      exact stepDown_settled (sound.withElector _ rfl) (fits.1.told (by simp))
        (by simp [Account.note, Event.endsWork]) _

end Elector

namespace Course

/-- A trace whose events were all licit, with an account that fits the participant. -/
structure Orderly (c : ElectionConfig) (k : Course τ) : Prop where
  lawful : Lawful c k.trace
  identity : k.elector.status.identity = c.identity
  phase : k.elector.status.phase = (account c.identity k.trace).phase
  cancelled : (account c.identity k.trace).cancelled = k.cancelled
  fits : k.elector.stage.Fits c k.elector.work (account c.identity k.trace)

theorem initial_orderly (c : ElectionConfig) (now : Nat) :
    (initial c now : Course τ).Orderly c :=
  ⟨trivial, rfl, rfl, rfl, rfl, nofun⟩

variable {c : ElectionConfig} {pace : Pace} {k next : Course τ}

theorem Orderly.told (orderly : k.Orderly c) (wall : Instant) (signal : Signal τ) :
    (Turn.mk k.elector []).Sound c (k.moment wall) signal
      (.told (k.moment wall) signal :: k.trace)
      ((account c.identity k.trace).note c.identity (.told (k.moment wall) signal)) where
  lawful := ⟨trivial, orderly.lawful⟩
  account := rfl
  identity := orderly.identity
  phase := orderly.phase
  told := rfl
  cancelled := by simp [Account.note, Event.cancels, orderly.cancelled, moment]

theorem Orderly.cancel (orderly : k.Orderly c) :
    (Course.mk k.elector k.now true (.cancelled :: k.trace)).Orderly c where
  lawful := ⟨trivial, orderly.lawful⟩
  identity := orderly.identity
  phase := orderly.phase
  cancelled := by simp [Account.note, Event.cancels]
  fits := orderly.fits.cancelled

/-- Between two runs the account is closed, and a new one opened. -/
theorem Orderly.opened (orderly : k.Orderly c) (idle : k.elector.stage = .idle)
    (cancelled : Bool) : (k.opened cancelled).Orderly c := by
  have fits := orderly.fits
  rw [idle] at fits
  have phase : k.elector.status.phase = .idle := orderly.phase.trans fits.1
  have idle : (k.opened cancelled).elector.stage = .idle := idle
  cases cancelled with
  | false => exact ⟨trivial, orderly.identity, phase, rfl, by rw [idle]; exact ⟨rfl, nofun⟩⟩
  | true =>
      exact ⟨⟨trivial, trivial⟩, orderly.identity, phase, rfl, by rw [idle]; exact ⟨rfl, nofun⟩⟩

variable [DecidableEq τ]

theorem Orderly.hear (orderly : k.Orderly c) (wall : Instant) {signal : Signal τ}
    (allowed : k.Allows (.hear signal)) : (k.hear c wall signal).Orderly c := by
  have settled : (k.turn c wall signal).Settled c (k.moment wall)
      (.told (k.moment wall) signal :: k.trace) := by
    refine Elector.step_settled (orderly.told wall signal) orderly.fits ?_ ?_ ?_
    · rintro rfl
      exact allowed.elim
    · rintro rfl
      exact allowed
    · rintro answer rfl
      exact allowed
  exact ⟨settled.lawful, settled.identity, settled.phase, settled.cancelled, settled.fits⟩

theorem Orderly.start (orderly : k.Orderly c) (wall : Instant) (idle : k.elector.stage = .idle)
    (cancelled : Bool) : ((k.opened cancelled).hear c wall .start).Orderly c := by
  have fresh : ((account c.identity (k.opened cancelled).trace).note c.identity
      (.told ((k.opened cancelled).moment wall) .start)).Fresh := by
    cases cancelled <;> exact ⟨rfl, rfl, rfl, rfl, rfl, rfl, rfl⟩
  have opened := orderly.opened idle cancelled
  have settled := Elector.step_settled (opened.told wall .start) opened.fits (fun _ => fresh)
    (by simp) (by simp)
  exact ⟨settled.lawful, settled.identity, settled.phase, settled.cancelled, settled.fits⟩

theorem Orderly.after (orderly : k.Orderly c) (wall : Instant) {move : Move τ}
    (allowed : k.Allows move) : (k.after c wall move).Orderly c := by
  cases move with
  | start cancelled => exact orderly.start wall allowed cancelled
  | cancel => exact orderly.cancel
  | hear signal => exact orderly.hear wall allowed
  | restart => exact initial_orderly c k.now

theorem Reachable.orderly (reachable : Reachable c pace k) : k.Orderly c := by
  induction reachable with
  | initial now => exact initial_orderly c now
  | step _ step ih =>
      cases step with
      | move wall move allowed => exact ih.after wall allowed
      | pass time may => exact ⟨ih.lawful, ih.identity, ih.phase, ih.cancelled, ih.fits⟩

end Course

end LeaseElection
