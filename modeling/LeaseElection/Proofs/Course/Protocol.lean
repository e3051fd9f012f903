import LeaseElection.Proofs.Course.Lawful

namespace LeaseElection

namespace Trace

/-- Whether a store call was begun after the caller had cancelled. -/
def CalledOnceCancelled (past : Trace τ) : Prop :=
  ∃ call earlier, .did (.call call) :: earlier <:+ past ∧ Saw Event.cancels earlier

/-- Whether what the participant was told last costs it the lease: a record that it does not hold,
or the renew deadline while the caller has not cancelled. -/
def Forfeits (c : ElectionConfig) (past : Trace τ) : Prop :=
  ∃ m signal begun, told past = some (m, signal) ∧ secured c.identity past = some begun ∧
    (signal.Supplants c.identity ∨
      (m.cancelled = false ∧ begun + c.renewDeadline.nanoseconds ≤ m.now))

/-- Whether leadership was left because the lease was forfeited. -/
def Lost (c : ElectionConfig) (past : Trace τ) : Prop :=
  ∃ status earlier, .did (.publish status) :: earlier <:+ past ∧ Leads earlier ∧
    ¬ status.phase.Leads ∧ Forfeits c earlier

/-- What may happen next, given what happened before. -/
structure Permits (c : ElectionConfig) (past : Trace τ) (event : Event τ) : Prop where
  /-- Leading starts at most once, and only by a claim that was acknowledged. -/
  starts : ∀ cancelled, event = .did (.hook (.started cancelled)) →
    secured c.identity past ≠ none ∧ ¬ Saw Event.starts past
  /-- Leading stops at most once, after it started, and not before the workload is over. -/
  stops : event = .did (.hook .stopped) → Saw Event.starts past ∧ ¬ Saw Event.stops past ∧
    Saw Event.cancelsWork past ∧ Saw Event.endsWork past
  /-- A run that started to lead does not end before it stopped. -/
  ends : ∀ outcome, event = .did (.returned outcome) → Saw Event.starts past →
    Saw Event.stops past
  /-- Once the caller has cancelled, the lease is given up, if that is asked for, and no other call
  is begun. -/
  departs : ∀ call, event = .did (.call call) → Saw Event.cancels past →
    c.releaseOnCancel = true ∧ call.IsRelease ∧ secured c.identity past ≠ none ∧
      (Saw Event.starts past → Saw Event.stops past) ∧ ¬ CalledOnceCancelled past
  /-- Once leadership is found lost no call is begun, and the run ends by saying so. -/
  loses : Saw Event.loses past ∨ Lost c past → (∀ call, event ≠ .did (.call call)) ∧
    ∀ outcome, event = .did (.returned outcome) → outcome = .leadershipLost
  phases : ∀ status, event = .did (.publish status) →
    status.phase = phase past ∨ (phase past).Precedes status.phase

end Trace

theorem account_departed (identity : String) (past : Trace τ) :
    (account identity past).departed = true ↔ Trace.CalledOnceCancelled past := by
  induction past with
  | nil => simp [Account.blank, Trace.CalledOnceCancelled]
  | cons event past ih =>
      have cancelled := account_cancelled identity past
      simp only [account_cons, Account.note, Bool.or_eq_true, Bool.and_eq_true, ih, cancelled]
      constructor
      · rintro (⟨call, earlier, tail, saw⟩ | ⟨saw, calls⟩)
        · exact ⟨call, earlier, tail.trans (List.suffix_cons _ _), saw⟩
        · cases event with
          | did effect =>
              cases effect with
              | call call => exact ⟨call, past, List.suffix_rfl, saw⟩
              | _ => simp [Event.calls] at calls
          | _ => simp [Event.calls] at calls
      · rintro ⟨call, earlier, tail, saw⟩
        rcases List.suffix_cons_iff.mp tail with same | tail
        · obtain ⟨rfl, rfl⟩ := List.cons.inj same
          exact .inr ⟨saw, rfl⟩
        · exact .inl ⟨call, earlier, tail, saw⟩

namespace Lawful

variable {c : ElectionConfig} {past : Trace τ}

theorem saw_of_lost (lawful : Lawful c past) (lost : Trace.Lost c past) :
    Trace.Saw Event.loses past := by
  obtain ⟨status, earlier, happened, leads, left, m, signal, begun, told, secured, cause⟩ := lost
  have leave := (lawful.licit happened).2 (by rwa [account_phase]) left
  obtain ⟨m', signal', begun', told', secured', found, -⟩ := leave
  rw [account_told, told] at told'
  rw [account_secured, secured] at secured'
  cases told'
  cases secured'
  obtain ⟨event, among, loses⟩ := (account_lost c.identity earlier).mp (found.mpr cause)
  have tail := (List.suffix_cons _ _).trans happened
  exact ⟨event, tail.subset among, loses⟩

theorem lost_of_left (lawful : Lawful c past) (left : (account c.identity past).left = some true) :
    Trace.Lost c past := by
  induction past with
  | nil => cases left
  | cons event past ih =>
      have before (left : (account c.identity past).left = some true) :
          Trace.Lost c (event :: past) := by
        obtain ⟨status, earlier, happened, rest⟩ := ih lawful.2 left
        exact ⟨status, earlier, happened.trans (List.suffix_cons _ _), rest⟩
      change Account.leftAfter _ event = some true at left
      unfold Account.leftAfter at left
      cases event with
      | did effect =>
          cases effect with
          | publish status =>
              simp only [Event.phase?] at left
              split at left
              next leaves =>
                obtain ⟨m, signal, begun, told, secured, found, -⟩ :=
                  lawful.1.2 leaves.1 leaves.2
                rw [account_phase] at leaves
                rw [account_told] at told
                rw [account_secured] at secured
                exact ⟨status, past, List.suffix_rfl, leaves.1, leaves.2, m, signal, begun, told,
                  secured, found.mp (Option.some.inj left)⟩
              · exact before left
          | _ => exact before left
      | told m signal | cancelled => exact before left
      | restarted => exact lawful.1.elim

end Lawful

theorem Trace.Permits.of_licit {c : ElectionConfig} {past : Trace τ} {event : Event τ}
    (lawful : Lawful c past) (licit : (account c.identity past).Licit c event) :
    Trace.Permits c past event := by
  have phase := account_phase c.identity past
  have secured := account_secured c.identity past
  have started := account_started c.identity past
  have stopped := account_stopped c.identity past
  have lost := account_lost c.identity past
  refine ⟨?_, ?_, ?_, ?_, ?_, ?_⟩
  · rintro cancelled rfl
    obtain ⟨acknowledged, fresh⟩ := licit
    rw [secured] at acknowledged
    rw [← Bool.not_eq_true, started] at fresh
    exact ⟨acknowledged, fresh⟩
  · rintro rfl
    obtain ⟨begun, fresh, cancelled, ended⟩ := licit
    rw [← Bool.not_eq_true, stopped] at fresh
    exact ⟨started.mp begun, fresh, (account_workCancelled c.identity past).mp cancelled,
      (account_workEnded c.identity past).mp ended⟩
  · rintro outcome rfl saw
    exact stopped.mp (licit.1 (started.mpr saw))
  · rintro call rfl saw
    obtain ⟨departed, wanted, release, acknowledged, inOrder⟩ :=
      licit.2.1 ((account_cancelled c.identity past).mpr saw)
    rw [secured] at acknowledged
    rw [started, stopped] at inOrder
    rw [← Bool.not_eq_true, account_departed] at departed
    exact ⟨wanted, release, acknowledged, inOrder, departed⟩
  · intro saw
    have saw : Trace.Saw Event.loses past := saw.elim id lawful.saw_of_lost
    refine ⟨?_, ?_⟩
    · rintro call rfl
      exact absurd (lost.mpr saw) (by simp [licit.1])
    · rintro outcome rfl
      exact licit.2.2 (lost.mpr saw)
  · rintro status rfl
    rw [← phase]
    exact licit.1

namespace Course

variable [DecidableEq τ] {c : ElectionConfig} {pace : Pace} {k : Course τ} {event : Event τ}
  {past : Trace τ}

/-- Every event of every run was permitted by what had happened before it. -/
theorem protocol_kept (reachable : Reachable c pace k) (happened : event :: past <:+ k.trace) :
    Trace.Permits c past event :=
  have lawful := reachable.orderly.lawful
  .of_licit (lawful.tail happened).2 (lawful.licit happened)

/-- A run that creates the record and starts to lead. -/
theorem protocol_kept_first_claim :
    ∃ (k : Course Nat) (past : Trace Nat), Reachable (.usual "a") ⟨true, true⟩ k ∧
      .did (.hook (.started false)) :: past <:+ k.trace ∧
      Trace.Permits (.usual "a") past (.did (.hook (.started false))) := by
  have started : Reachable (.usual "a") ⟨true, true⟩ _ :=
    (Reachable.initial 0 : Reachable _ _ (_ : Course Nat)).does .epoch (.start false) rfl
  have claiming := started.does .epoch
    (.hear (.answered (.failed (.notFound (ElectionConfig.usual "a").key)))) trivial
  have elected := claiming.does .epoch (.hear (.answered (.written 1))) trivial
  exact ⟨_, _, elected, List.suffix_rfl, protocol_kept elected List.suffix_rfl⟩

end Course

end LeaseElection
