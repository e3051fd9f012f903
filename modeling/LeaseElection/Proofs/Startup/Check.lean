import LeaseElection.Startup.Check

namespace LeaseElection

namespace TaskCourse

variable {α : Type} {course : TaskCourse α} {start patience : Nat}

/-- The task, left to itself, ends before this time. -/
def EndsBefore (course : TaskCourse α) (time : Nat) : Prop :=
  ∃ o ∈ course.outcome? none, o.1 < time

/-- Waiting for a task is in vain exactly if the task does not end in time, and then takes all the
time there is. -/
theorem await_of_running (running : ¬ course.EndsBefore (start + patience)) :
    course.await none start patience = (none, start + patience) := by
  unfold await
  cases outcome : course.outcome? none with
  | none => rfl
  | some o =>
      have late : ¬ o.1 < start + patience := fun before => running ⟨o, outcome, before⟩
      dsimp only
      rw [if_neg late]

theorem await_of_endsBefore (ends : course.EndsBefore (start + patience)) :
    ∃ result finish, course.await none start patience = (some result, finish) := by
  obtain ⟨o, outcome, before⟩ := ends
  unfold await
  rw [Option.mem_def.mp outcome]
  dsimp only
  rw [if_pos before]
  exact ⟨_, _, rfl⟩

end TaskCourse

namespace Startup

variable {α : Type} {course : TaskCourse α} {start : Nat} {describe : TaskEnd α → String}

theorem watch_of_running (running : ¬ course.EndsBefore (start + window.nanoseconds)) :
    watch course start describe = ⟨.ok (), start + window.nanoseconds⟩ := by
  unfold watch
  rw [TaskCourse.await_of_running running]

theorem watch_of_endsBefore (ends : course.EndsBefore (start + window.nanoseconds)) :
    ∃ failure, (watch course start describe).result = .error failure := by
  obtain ⟨result, finish, awaited⟩ := TaskCourse.await_of_endsBefore ends
  unfold watch
  rw [awaited]
  exact ⟨_, rfl⟩

theorem within_of_error {report : CheckReport} {failure : Failure}
    (failed : report.result = .error failure) (attempt : String) :
    (report.within attempt).result = .error (failure.within attempt) := by
  rw [CheckReport.within, failed]
  rfl

theorem within_of_ok (time : Nat) (attempt : String) :
    (⟨.ok (), time⟩ : CheckReport).within attempt = ⟨.ok (), time⟩ := rfl

/-- What the check of all tasks comes to. -/
theorem checkAll_cases (backend : String) (endpoint : TaskCourse Unit)
    (election : TaskCourse ElectionOutcome) (start : Nat) :
    (¬ endpoint.EndsBefore (start + window.nanoseconds) ∧
      ¬ election.EndsBefore (start + 2 * window.nanoseconds) ∧
        checkAll backend endpoint election start = ⟨.ok (), start + 2 * window.nanoseconds⟩) ∨
    ((endpoint.EndsBefore (start + window.nanoseconds) ∨
        election.EndsBefore (start + 2 * window.nanoseconds)) ∧
      ∃ failure, (checkAll backend endpoint election start).result = .error failure) := by
  have twice : start + window.nanoseconds + window.nanoseconds = start + 2 * window.nanoseconds := by
    omega
  dsimp only [checkAll, checkTask]
  by_cases first : endpoint.EndsBefore (start + window.nanoseconds)
  · obtain ⟨failure, failed⟩ := watch_of_endsBefore first
    rw [within_of_error failed]
    exact .inr ⟨.inl first, _, within_of_error failed _⟩
  · rw [watch_of_running first, within_of_ok]
    dsimp only [checkElection]
    by_cases second : election.EndsBefore (start + 2 * window.nanoseconds)
    · rw [← twice] at second
      obtain ⟨failure, failed⟩ := watch_of_endsBefore second
      rw [← twice]
      exact .inr ⟨.inr second, _, within_of_error failed _⟩
    · rw [← twice] at second
      rw [watch_of_running second, within_of_ok, ← twice]
      exact .inl ⟨first, second, rfl⟩

/-- When the check of all tasks succeeds, none of them has ended by then. -/
def Confirms (backend : String) (endpoint : TaskCourse Unit) (election : TaskCourse ElectionOutcome)
    (start : Nat) : Prop :=
  (checkAll backend endpoint election start).result = .ok () →
    ¬ endpoint.EndsBefore (checkAll backend endpoint election start).time ∧
      ¬ election.EndsBefore (checkAll backend endpoint election start).time

/-- The check succeeds exactly if the endpoint outlasts the first window and the election both, and
then is done when the second one closes. What it says is true but for an endpoint that ends in the
second window, when only the election is watched. -/
theorem check_kept (backend : String) (endpoint : TaskCourse Unit)
    (election : TaskCourse ElectionOutcome) (start : Nat) :
    (checkAll backend endpoint election start = ⟨.ok (), start + 2 * window.nanoseconds⟩ ↔
      ¬ endpoint.EndsBefore (start + window.nanoseconds) ∧
        ¬ election.EndsBefore (start + 2 * window.nanoseconds)) ∧
    ((∃ failure, (checkAll backend endpoint election start).result = .error failure) ↔
      endpoint.EndsBefore (start + window.nanoseconds) ∨
        election.EndsBefore (start + 2 * window.nanoseconds)) ∧
    (Confirms backend endpoint election start ↔
      ¬ (¬ endpoint.EndsBefore (start + window.nanoseconds) ∧
        endpoint.EndsBefore (start + 2 * window.nanoseconds) ∧
          ¬ election.EndsBefore (start + 2 * window.nanoseconds))) := by
  unfold Confirms
  rcases checkAll_cases backend endpoint election start with
    ⟨first, second, succeeded⟩ | ⟨ended, failure, failed⟩
  · rw [succeeded]
    simp [first, second]
  · have refused : checkAll backend endpoint election start ≠
        ⟨.ok (), start + 2 * window.nanoseconds⟩ := by
      intro same
      rw [same] at failed
      cases failed
    have excluded (first : ¬ endpoint.EndsBefore (start + window.nanoseconds)) :
        election.EndsBefore (start + 2 * window.nanoseconds) := ended.resolve_left first
    refine ⟨⟨fun same => absurd same refused, fun outlast => ?_⟩,
      ⟨fun _ => ended, fun _ => ⟨_, failed⟩⟩,
      ⟨fun _ missed => missed.2.2 (excluded missed.1), fun _ succeeded => ?_⟩⟩
    · exact absurd (excluded outlast.1) outlast.2
    · rw [failed] at succeeded
      cases succeeded

/-- An endpoint that exits while the election is watched. -/
theorem check_unsound : ∃ (endpoint : TaskCourse Unit) (election : TaskCourse ElectionOutcome),
    ¬ Confirms "memory" endpoint election 0 := by
  refine ⟨.ending 400000000 (.ok ()), .endless, ?_⟩
  intro confirms
  have succeeded : checkAll "memory" (.ending 400000000 (.ok ())) .endless 0 =
      ⟨.ok (), 600000000⟩ := rfl
  rw [Confirms, succeeded] at confirms
  exact (confirms rfl).1 ⟨_, rfl, by decide⟩

end Startup

end LeaseElection
