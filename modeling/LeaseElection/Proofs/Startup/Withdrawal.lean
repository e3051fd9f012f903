import LeaseElection.Startup.Withdrawal

namespace LeaseElection

namespace TaskCourse

variable {α : Type} {course : TaskCourse α} {cancelled : Option Nat} {start patience : Nat}

/-- What a look at a task's handle may say at a time. A task that ends at that very time may have
ended already or be about to; one that was awaited to its end has ended. -/
structure Shows (course : TaskCourse α) (cancelled : Option Nat) (now : Nat) (spent ended : Bool) :
    Prop where
  past : ∀ o ∈ course.outcome? cancelled, o.1 < now → ended = true
  present : ended = true → ∃ o ∈ course.outcome? cancelled, o.1 ≤ now
  spent : spent = true → ended = true

theorem Shows.ends {now : Nat} {spent ended : Bool} (look : course.Shows cancelled now spent ended)
    (before : spent = true ∨ ended = true ∨ ∃ o ∈ course.outcome? cancelled, o.1 < now) :
    ended = true := by
  rcases before with awaited | seen | ⟨o, among, past⟩
  · exact look.spent awaited
  · exact seen
  · exact look.past o among past

/-- Waiting ends with the task, or when the patience is exhausted while the task goes on. -/
theorem await_cases (course : TaskCourse α) (cancelled : Option Nat) (start patience : Nat) :
    (∃ o ∈ course.outcome? cancelled, o.1 < start + patience ∧
      course.await cancelled start patience = (some o.2, max start o.1)) ∨
    ((∀ o ∈ course.outcome? cancelled, start + patience ≤ o.1) ∧
      course.await cancelled start patience = (none, start + patience)) := by
  unfold await
  cases outcome : course.outcome? cancelled with
  | none => exact .inr ⟨nofun, rfl⟩
  | some o =>
      by_cases soon : o.1 < start + patience
      · exact .inl ⟨o, rfl, soon, if_pos soon⟩
      · refine .inr ⟨fun other among => ?_, if_neg soon⟩
        obtain rfl : o = other := Option.some.inj among
        exact Nat.le_of_not_lt soon

end TaskCourse

namespace Startup

variable {election : TaskCourse ElectionOutcome} {start : Nat} {ended spent : Bool}

/-- The three ways a withdrawal may go: the election has ended before, it ends within the grace, or
it outlasts the grace. -/
theorem withdrawSeeing_cases (look : election.Shows (some start) start spent ended)
    (failure : Failure) (grace : Duration) (receiver : Bool) :
    (ended = true ∧ withdrawSeeing ended failure election grace receiver start =
      ⟨failure, opening receiver, start, true, []⟩) ∨
    (ended = false ∧ ∃ o ∈ election.outcome? (some start), start ≤ o.1 ∧
      o.1 < start + grace.nanoseconds ∧ ∃ logs,
        withdrawSeeing ended failure election grace receiver start =
          ⟨failure, opening receiver ++ [.await], o.1, true, logs⟩) ∨
    (ended = false ∧ (∀ o ∈ election.outcome? (some start), start + grace.nanoseconds ≤ o.1) ∧
      ∃ logs, withdrawSeeing ended failure election grace receiver start =
        ⟨failure, opening receiver ++ [.await, .abort], start + grace.nanoseconds, false,
          logs⟩) := by
  cases ended with
  | true => exact .inl ⟨rfl, rfl⟩
  | false =>
      have running (o) (among : o ∈ election.outcome? (some start)) : start ≤ o.1 :=
        Nat.le_of_not_lt fun before => Bool.false_ne_true (look.past o among before)
      unfold withdrawSeeing
      rcases election.await_cases (some start) start grace.nanoseconds with
        ⟨o, among, soon, awaited⟩ | ⟨late, awaited⟩
      · have later := running o among
        rw [awaited, Nat.max_eq_right later]
        refine .inr (.inl ⟨rfl, o, among, later, soon, ?_⟩)
        cases o.2 with
        | ok outcome => exact ⟨_, rfl⟩
        | error fault => exact ⟨_, rfl⟩
      · rw [awaited]
        exact .inr (.inr ⟨rfl, late, _, rfl⟩)

/-- What is expected of a withdrawal from a startup that failed, when a look at the election said
whether it had ended. -/
structure Withdrawal.Orderly (w : Withdrawal) (failure : Failure)
    (election : TaskCourse ElectionOutcome) (grace : Duration) (receiver spent ended : Bool)
    (start : Nat) : Prop where
  /-- The failure is handed on as it is. -/
  failure : w.failure = failure
  /-- The token ends cancelled. -/
  cancels : w.acts.count .cancel = 1
  /-- Bad health reaches its receiver before the token is cancelled. -/
  reports : receiver = true → w.reported? = some .bad ∧ [.report .bad, .cancel].Sublist w.acts
  unheard : receiver = false → w.reported? = none
  /-- An election that was awaited to its end, or has ended unnoticed, is not awaited. -/
  spares : spent = true ∨ ended = true ∨ (∃ o ∈ election.outcome? (some start), o.1 < start) →
    .await ∉ w.acts ∧ .abort ∉ w.acts ∧ w.time = start
  awaitsOnce : w.acts.count .await ≤ 1
  /-- An election that ends within the grace is not aborted, and is not waited for any longer. -/
  waits : ∀ o ∈ election.outcome? (some start), o.1 < start + grace.nanoseconds →
    .abort ∉ w.acts ∧ w.time = max start o.1
  /-- An election that outlasts the grace is aborted when it is over. -/
  aborts : ended = false → (∀ o ∈ election.outcome? (some start), start + grace.nanoseconds ≤ o.1) →
    .abort ∈ w.acts ∧ w.time = start + grace.nanoseconds
  /-- No election is left behind. -/
  settles : .abort ∈ w.acts ∨ ∃ o ∈ election.outcome? (some start), o.1 ≤ w.time

theorem await_notMem_opening (receiver : Bool) : .await ∉ opening receiver := by
  cases receiver <;> decide

theorem abort_notMem_opening (receiver : Bool) : .abort ∉ opening receiver := by
  cases receiver <;> decide

/-- What a withdrawal says and to whom is settled by its opening. -/
theorem opens {w : Withdrawal} {receiver : Bool} {more : List WithdrawalAct}
    (acts : w.acts = opening receiver ++ more) (later : more ⊆ [.await, .abort]) :
    w.acts.count .cancel = 1 ∧
      (receiver = true → w.reported? = some .bad ∧ [.report .bad, .cancel].Sublist w.acts) ∧
      (receiver = false → w.reported? = none) := by
  have uncancelled : .cancel ∉ more := fun among => absurd (later among) (by decide)
  refine ⟨?_, ?_, ?_⟩
  · rw [acts, List.count_append, List.count_eq_zero_of_not_mem uncancelled]
    cases receiver <;> rfl
  · rintro rfl
    refine ⟨?_, acts ▸ List.sublist_append_left _ _⟩
    rw [Withdrawal.reported?, acts]
    rfl
  · rintro rfl
    rw [Withdrawal.reported?, acts, List.findSome?_eq_none_iff]
    intro act among
    rcases List.mem_append.mp among with first | behind
    · obtain rfl : act = .cancel := List.mem_singleton.mp first
      rfl
    · have act_cases := later behind
      simp only [List.mem_cons, List.not_mem_nil, or_false] at act_cases
      rcases act_cases with rfl | rfl <;> rfl

theorem withdrawSeeing_orderly (look : election.Shows (some start) start spent ended)
    (failure : Failure) (grace : Duration) (receiver : Bool) :
    (withdrawSeeing ended failure election grace receiver start).Orderly failure election grace
      receiver spent ended start := by
  have awaitless := await_notMem_opening receiver
  have abortless := abort_notMem_opening receiver
  have unawaited := List.count_eq_zero_of_not_mem awaitless
  rcases withdrawSeeing_cases look failure grace receiver with
    ⟨finished, went⟩ | ⟨running, o, among, later, soon, logs, went⟩ | ⟨running, late, logs, went⟩
  · obtain ⟨o, among, before⟩ := look.present finished
    obtain ⟨cancels, reports, unheard⟩ := opens (w := ⟨failure, opening receiver, start, true, []⟩)
      (List.append_nil _).symm (List.nil_subset _)
    rw [went]
    exact {
      failure := rfl
      cancels, reports, unheard
      spares := fun _ => ⟨awaitless, abortless, rfl⟩
      awaitsOnce := unawaited ▸ Nat.zero_le 1
      waits := by
        intro other same _
        obtain rfl : o = other := Option.some.inj (among.symm.trans same)
        exact ⟨abortless, (Nat.max_eq_left before).symm⟩
      aborts := fun running => absurd (finished.symm.trans running) (by decide)
      settles := .inr ⟨o, among, before⟩ }
  · obtain ⟨cancels, reports, unheard⟩ := opens
      (w := ⟨failure, opening receiver ++ [.await], o.1, true, logs⟩) rfl (by simp)
    rw [went]
    exact {
      failure := rfl
      cancels, reports, unheard
      spares := fun before => absurd ((look.ends before).symm.trans running) (by decide)
      awaitsOnce := by rw [List.count_append, unawaited]; decide
      waits := by
        intro other same _
        obtain rfl : o = other := Option.some.inj (among.symm.trans same)
        exact ⟨by simp [abortless], (Nat.max_eq_right later).symm⟩
      aborts := fun _ late => absurd (late o among) (Nat.not_le_of_lt soon)
      settles := .inr ⟨o, among, Nat.le_refl _⟩ }
  · obtain ⟨cancels, reports, unheard⟩ := opens
      (w := ⟨failure, opening receiver ++ [.await, .abort], start + grace.nanoseconds, false,
        logs⟩) rfl (List.Subset.refl _)
    have aborted : .abort ∈ opening receiver ++ [.await, .abort] := by simp
    rw [went]
    exact {
      failure := rfl
      cancels, reports, unheard
      spares := fun before => absurd ((look.ends before).symm.trans running) (by decide)
      awaitsOnce := by rw [List.count_append, unawaited]; decide
      waits := fun o among soon => absurd (late o among) (Nat.not_le_of_lt soon)
      aborts := fun _ _ => ⟨aborted, rfl⟩
      settles := .inl aborted }

/-- Nothing is known of an election that ends at the very time of the look, unless it was awaited.
-/
theorem shows_unspent (election : TaskCourse ElectionOutcome) (start : Nat) :
    election.Shows (some start) start false
      ((election.outcome? (some start)).any fun o => o.1 < start) where
  past := by
    intro o among before
    rw [Option.mem_def.mp among]
    exact decide_eq_true before
  present := by
    intro ended
    obtain ⟨o, among, before⟩ := (Option.any_eq_true _ _).mp ended
    exact ⟨o, among, Nat.le_of_lt (of_decide_eq_true before)⟩
  spent := nofun

/-- Whatever the election does, how long the grace is and whether or not the receiver of the health
is still there, a withdrawal is orderly, whichever way a look at an election goes that ends just
then. -/
theorem withdrawal_kept (failure : Failure) (election : TaskCourse ElectionOutcome)
    (grace : Duration) (receiver : Bool) (start : Nat) :
    (∀ spent ended, election.Shows (some start) start spent ended →
      (withdrawSeeing ended failure election grace receiver start).Orderly failure election grace
        receiver spent ended start) ∧
    (withdraw failure election grace receiver start).Orderly failure election grace receiver false
      ((election.outcome? (some start)).any fun o => o.1 < start) start :=
  ⟨fun _ _ look => withdrawSeeing_orderly look failure grace receiver,
    withdrawSeeing_orderly (shows_unspent election start) failure grace receiver⟩

/-- An election that panicked while it was watched, so that its handle was awaited to its end at the
very time of the withdrawal; and one that takes a second to end once its token is cancelled. -/
theorem withdrawal_kept_panicked :
    (TaskCourse.ending 100000000 (.error (.panicked "boom")) : TaskCourse ElectionOutcome).Shows
        (some 100000000) 100000000 true true ∧
      .await ∉ (withdrawSeeing true (.ofText "memory startup check failed")
        (.ending 100000000 (.error (.panicked "boom"))) (.ofSeconds 11) true 100000000).acts ∧
      .abort ∉ (withdrawSeeing false (.ofText "api down") (.yielding 1000000000 (.ok .cancelled))
        (.ofSeconds 5) false 0).acts := by
  have seen : (TaskCourse.ending 100000000 (.error (.panicked "boom")) :
      TaskCourse ElectionOutcome).Shows (some 100000000) 100000000 true true :=
    ⟨fun _ _ _ => rfl, fun _ => ⟨_, rfl, Nat.le_refl _⟩, fun _ => rfl⟩
  have unseen : (TaskCourse.yielding 1000000000 (.ok .cancelled) :
      TaskCourse ElectionOutcome).Shows (some 0) 0 false false :=
    ⟨fun _ _ before => absurd before (Nat.not_lt_zero _), nofun, nofun⟩
  exact ⟨seen, (((withdrawal_kept _ _ _ _ _).1 _ _ seen).spares (.inl rfl)).1,
    (((withdrawal_kept _ _ _ _ _).1 _ _ unseen).waits _ rfl (by decide)).1⟩

end Startup

end LeaseElection
