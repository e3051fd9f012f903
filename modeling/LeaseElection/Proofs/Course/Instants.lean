import LeaseElection.Proofs.Course.Timing

namespace LeaseElection

theorem suffix_append_cases {past later base : List α} (within : past <:+ later ++ base) :
    past <:+ base ∨ ∃ part, part <:+ later ∧ past = part ++ base := by
  rcases List.suffix_or_suffix_of_suffix within (List.suffix_append later base) with
    before | ⟨part, rfl⟩
  · exact .inl before
  · exact .inr ⟨part, List.suffix_append_self_iff.mp within, rfl⟩

namespace Turn

variable {t : Turn τ} {base past : Trace τ}

theorem trace_eq (t : Turn τ) (base : Trace τ) :
    t.trace base = (t.effects.map .did).reverse ++ base := by
  unfold trace
  induction t.effects generalizing base with
  | nil => rfl
  | cons effect rest ih => simp [ih]

/-- An instant of a turn lies before the turn, or after some of its effects. -/
theorem instants (within : past <:+ t.trace base) :
    past <:+ base ∨ ∃ done : List (Effect τ), past = done.map .did ++ base ∧
      ∀ effect ∈ done, effect ∈ t.effects := by
  rw [trace_eq] at within
  rcases suffix_append_cases within with before | ⟨part, among, rfl⟩
  · exact .inl before
  · rw [← List.map_reverse] at among
    obtain ⟨done, order, rfl⟩ := List.suffix_map_iff.mp among
    exact .inr ⟨done, rfl, fun effect member => List.mem_reverse.mp (order.subset member)⟩

end Turn

namespace Trace

variable {identity : String} {base : Trace τ} {done : List (Effect τ)}

theorem secured_done : secured identity (done.map .did ++ base) = secured identity base := by
  induction done with
  | nil => rfl
  | cons effect done ih => exact ih

theorem not_leads_done (modest : ∀ effect ∈ done, ¬ effect.Leads) (resigned : ¬ Leads base) :
    ¬ Leads (done.map .did ++ base) := by
  induction done with
  | nil => exact resigned
  | cons effect done ih =>
      have before := ih fun effect among => modest effect (List.mem_cons_of_mem _ among)
      have last := modest effect List.mem_cons_self
      cases effect with
      | publish status => exact last
      | _ => exact before

theorem not_inOffice_done (modest : ∀ effect ∈ done, ¬ effect.Leads)
    (resigned : ¬ InOffice base) : ¬ InOffice (done.map .did ++ base) := by
  induction done with
  | nil => exact resigned
  | cons effect done ih =>
      have before := ih fun effect among => modest effect (List.mem_cons_of_mem _ among)
      have last := modest effect List.mem_cons_self
      cases effect with
      | hook hooked =>
          cases hooked with
          | started cancelled => exact absurd trivial last
          | stopped => exact id
          | newLeader leader => exact before
      | _ => exact before

end Trace

section

variable {c : ElectionConfig} {past : Trace τ}

theorem Lawful.started_of_stopped (lawful : Lawful c past)
    (stopped : (account c.identity past).stopped = true) :
    (account c.identity past).started = true := by
  induction past with
  | nil => cases stopped
  | cons event past ih =>
      rw [account_cons, Account.note, Bool.or_eq_true] at stopped ⊢
      rcases stopped with before | now
      · exact .inl (ih lawful.2 before)
      · have licit := lawful.1
        unfold Event.stops at now
        split at now
        · exact .inl licit.1
        · cases now

theorem Lawful.of_inOffice (lawful : Lawful c past) (office : Trace.InOffice past) :
    (account c.identity past).started = true ∧ (account c.identity past).stopped = false := by
  induction past with
  | nil => exact office.elim
  | cons event past ih =>
      rw [account_cons, Account.note]
      rcases (Trace.inOffice_cons event past).mp office with starts | ⟨stays, -, before⟩
      · unfold Event.starts at starts
        split at starts
        · have fresh : (account c.identity past).started = false := lawful.1.2
          have unstopped : (account c.identity past).stopped = false := by
            rw [← Bool.not_eq_true]
            intro stopped
            rw [lawful.2.started_of_stopped stopped] at fresh
            cases fresh
          simp [unstopped, Event.starts, Event.stops]
        · cases starts
      · obtain ⟨started, unstopped⟩ := ih lawful.2 before
        simp [started, unstopped, stays]

end

section

variable {c : ElectionConfig} {work : WorkState} {d : Account τ} {s : Stage τ}

/-- Who leads has a claim to go on with. -/
theorem Stage.Fits.held_of_leads (fits : s.Fits c work d) (leads : d.phase.Leads) :
    ∃ held, s.held? = some held := by
  have unseeking : ¬ d.Seeking none := fun seeking => seeking.not_leads leads
  cases s with
  | holding held next | renewing held record started | rereading held => exact ⟨held, rfl⟩
  | reading deadline | waiting next => exact absurd fits unseeking
  | claiming deadline record stamped => exact absurd fits.1 unseeking
  | idle =>
      rw [fits.1] at leads
      cases leads <;> contradiction
  | stopping held reason =>
      rw [fits.1.phase] at leads
      cases leads <;> contradiction
  | releasing deadline =>
      rw [fits.phase] at leads
      cases leads <;> contradiction

/-- Who has started to lead and has not stopped leads, or waits for its workload to end. -/
theorem Stage.Fits.leads_of_started (fits : s.Fits c work d) (started : d.started = true)
    (unstopped : d.stopped = false) :
    d.phase.Leads ∨ ∃ held reason, s = .stopping held reason := by
  have seeking : ¬ d.Seeking none := by
    intro seeking
    rw [seeking.started] at started
    cases started
  cases s with
  | holding held next | rereading held => exact .inl fits.leading.leads
  | renewing held record started => exact .inl fits.1.leading.leads
  | stopping held reason => exact .inr ⟨held, reason, rfl⟩
  | reading deadline | waiting next => exact absurd fits seeking
  | claiming deadline record stamped => exact absurd fits.1 seeking
  | idle =>
      rw [fits.2 started] at unstopped
      cases unstopped
  | releasing deadline =>
      rw [fits.stopped started] at unstopped
      cases unstopped

end

namespace Course

variable {τ : Type} {c : ElectionConfig} {k : Course τ} {past : Trace τ}

theorem Orderly.claim_of_leads (orderly : k.Orderly c) (leads : Trace.Leads k.trace)
    (signal : Signal τ) : ¬ Elector.Powerless c.identity k.elector.stage signal := by
  obtain ⟨held, led⟩ := orderly.fits.held_of_leads (by rwa [account_phase])
  exact Elector.not_powerless_of_leads led

theorem Orderly.leads_of_inOffice (orderly : k.Orderly c) (office : Trace.InOffice k.trace) :
    Trace.Leads k.trace ∨ ∃ held reason, k.elector.stage = .stopping held reason := by
  obtain ⟨started, unstopped⟩ := orderly.lawful.of_inOffice office
  have leads := orderly.fits.leads_of_started started unstopped
  rwa [account_phase] at leads

/-- Before a run starts nothing has happened, save that it may be cancelled already. -/
theorem opened_instants {cancelled : Bool} (within : past <:+ (k.opened cancelled).trace) :
    past = [] ∨ past = [.cancelled] := by
  cases cancelled with
  | false => exact .inl (List.suffix_nil.mp within)
  | true => exact (List.suffix_cons_iff.mp within).symm.imp_left List.suffix_nil.mp

section Within

variable [DecidableEq τ] {wall : Instant} {signal : Signal τ} {done : List (Effect τ)}

/-- An instant of a course that has just heard a signal lies before that, or after some effects. -/
theorem instants (within : past <:+ (k.hear c wall signal).trace) : past <:+ k.trace ∨
    ∃ done : List (Effect τ), past = done.map .did ++ .told (k.moment wall) signal :: k.trace ∧
      ∀ effect ∈ done, effect ∈ (k.turn c wall signal).effects := by
  rcases Turn.instants within with before | after
  · rcases List.suffix_cons_iff.mp before with rfl | before
    · exact .inr ⟨[], rfl, by simp⟩
    · exact .inl before
  · exact .inr after

theorem Orderly.quiet_within (orderly : k.Orderly c)
    (among : ∀ effect ∈ done, effect ∈ (k.turn c wall signal).effects)
    (powerless : Elector.Powerless c.identity k.elector.stage signal) :
    ∀ effect ∈ done, ¬ effect.Leads := by
  have resigned : ¬ k.elector.status.phase.Leads := by
    rw [orderly.phase, account_phase]
    exact fun leads => orderly.claim_of_leads leads signal powerless
  have modest : (k.turn c wall signal).Modest := Elector.step_modest resigned powerless
  exact fun effect member => modest.effects effect (among effect member)

/-- Whoever leads at an instant of a turn has a claim to go on with, by what it was told. -/
theorem Orderly.leads_within (orderly : k.Orderly c)
    (among : ∀ effect ∈ done, effect ∈ (k.turn c wall signal).effects)
    (leads : Trace.Leads (done.map .did ++ .told (k.moment wall) signal :: k.trace)) :
    ¬ Elector.Powerless c.identity k.elector.stage signal := by
  intro powerless
  have quiet := orderly.quiet_within among powerless
  have told : ¬ Trace.Leads (.told (k.moment wall) signal :: k.trace) :=
    fun before => orderly.claim_of_leads before signal powerless
  exact Trace.not_leads_done quiet told leads

/-- Whoever is in office at an instant of a turn has such a claim, or waits for its workload to
end. -/
theorem Orderly.office_within (orderly : k.Orderly c)
    (among : ∀ effect ∈ done, effect ∈ (k.turn c wall signal).effects)
    (office : Trace.InOffice (done.map .did ++ .told (k.moment wall) signal :: k.trace)) :
    ¬ Elector.Powerless c.identity k.elector.stage signal ∨
      ∃ held reason, k.elector.stage = .stopping held reason := by
  by_cases powerless : Elector.Powerless c.identity k.elector.stage signal
  · by_cases before : Trace.InOffice k.trace
    · exact (orderly.leads_of_inOffice before).imp_left fun leads =>
        orderly.claim_of_leads leads signal
    · have quiet := orderly.quiet_within among powerless
      have told : ¬ Trace.InOffice (.told (k.moment wall) signal :: k.trace) := before
      exact absurd office (Trace.not_inOffice_done quiet told)
  · exact .inl powerless

end Within

end Course

end LeaseElection
