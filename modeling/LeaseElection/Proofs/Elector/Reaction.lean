import LeaseElection.Proofs.Elector.Moves

namespace LeaseElection

/-! # The reactions of an elector

`Reacts` lists what an elector may do about a signal, by the stage at which it is, with the guard of
each case. A step is analysed once, in `step_reacts`; whatever is proved about a step afterwards goes
by the cases of `Reacts`. -/

namespace Stage

/-- Whether an answer is one to the call under way. -/
def Expects : Stage τ → StoreAnswer τ → Prop
  | .reading _, .found _ | .reading _, .failed _ => True
  | .rereading _, .found _ | .rereading _, .failed _ => True
  | .claiming .., .written _ | .claiming .., .failed _ => True
  | .renewing .., .written _ | .renewing .., .failed _ => True
  | .releasing _, .written _ | .releasing _, .failed _ => True
  | _, _ => False

/-- Whether the lease is sought, and not had. -/
def Seeks : Stage τ → Prop
  | .reading _ | .claiming .. | .waiting _ => True
  | _ => False

/-- The claim by which a participant leads at this stage. -/
def held? : Stage τ → Option (Held τ)
  | .holding held _ | .renewing held .. | .rereading held => some held
  | _ => none

end Stage

namespace Signal

/-- Whether a signal brings a cancellation, or comes when one is noticed. -/
def Cancels (m : Moment) : Signal τ → Prop
  | .cancelled => True
  | .timer => m.cancelled = true
  | .start | .answered _ | .workEnded _ => False

/-- Whether the call under way failed, or is out of time. -/
def Fails : Signal τ → Prop
  | .timer | .answered (.failed _) => True
  | _ => False

theorem Cancels.unasked {m : Moment} {signal : Signal τ} (cancels : signal.Cancels m)
    (answer : StoreAnswer τ) : signal ≠ .answered answer := by
  rintro rfl
  exact cancels

theorem Cancels.going {m : Moment} {signal : Signal τ} (cancels : signal.Cancels m)
    (panicked : Bool) : signal ≠ .workEnded panicked := by
  rintro rfl
  exact cancels

theorem Cancels.noticed {m : Moment} {signal : Signal τ} (cancels : signal.Cancels m) :
    m.cancelled = true ∨ signal = .cancelled := by
  cases signal with
  | cancelled => exact .inr rfl
  | timer => exact .inl cancels
  | start | answered answer | workEnded panicked => exact cancels.elim

theorem Fails.unwritten {signal : Signal τ} (fails : signal.Fails) (token : τ) :
    signal ≠ .answered (.written token) := by
  rintro rfl
  exact fails

theorem Fails.going {signal : Signal τ} (fails : signal.Fails) (panicked : Bool) :
    signal ≠ .workEnded panicked := by
  rintro rfl
  exact fails

end Signal

namespace Elector

variable {τ : Type} (c : ElectionConfig) (m : Moment) (e : Elector τ)

/-- Whether a signal is passed over. -/
def Ignores : Signal τ → Prop
  | .start => e.stage ≠ .idle
  | .cancelled => ¬ e.stage.HeedsCancel
  | .answered answer => ¬ e.stage.Expects answer
  | .timer => ∀ due, e.alarm? c = some due → m.now < due
  | .workEnded _ => e.work ≠ .running

/-- How a reaction begins that may have to give up the call under way. -/
inductive Begins : Turn τ → Prop
  | plain : Begins ⟨e, []⟩
  | abandoning : Begins ((Turn.mk e []).emit .abandon)

variable {e} in
theorem Begins.elector {t : Turn τ} (begins : e.Begins t) : t.elector = e := by
  cases begins <;> rfl

variable {e} in
theorem Begins.quiet {t : Turn τ} (begins : e.Begins t) : t.calls = [] ∧ t.outcomes = [] := by
  cases begins <;> exact ⟨rfl, rfl⟩

/-- An elector whose run is about to start. -/
def cleared : Elector τ := { e with sighting := none, lastReported := none, work := .absent }

variable [DecidableEq τ]

inductive Reacts : Stage τ → Signal τ → Turn τ → Prop
  | ignores (ignores : e.Ignores c m signal) : Reacts s signal ⟨e, []⟩
  | starts : Reacts .idle .start (attempt c m ((Turn.mk e.cleared []).enter .acquiring))
  | withdraws (begins : e.Begins t) (seeks : s.Seeks) (cancels : signal.Cancels m) :
      Reacts s signal (finish t .cancelled)
  | quits (begins : e.Begins t) (leads : s.held? = some held) (cancels : signal.Cancels m) :
      Reacts s signal (stop c m t held .cancelled)
  | retries : Reacts (.waiting next) .timer (attempt c m ⟨e, []⟩)
  | rests (begins : e.Begins t) (seeks : s.Seeks) (fails : signal.Fails) :
      Reacts s signal (rest c m t)
  | considers : Reacts (.reading deadline) (.answered (.found current))
      (consider c m ⟨e, []⟩ deadline current)
  | founds (missing : error.IsNotFound) : Reacts (.reading deadline) (.answered (.failed error))
      (found c m ⟨e, []⟩ deadline)
  | acquires : Reacts (.claiming deadline record stamped) (.answered (.written token))
      (acquired c m ⟨e, []⟩ ⟨record, token, stamped⟩)
  | renews (free : m.cancelled = false) (early : m.now < renewBy c held) :
      Reacts (.holding held next) .timer (renew c m ⟨e, []⟩ held)
  | expires (begins : e.Begins t) (leads : s.held? = some held) (late : renewBy c held ≤ m.now) :
      Reacts s .timer (hold c m t held)
  | goesUnrenewed (late : renewBy c held ≤ m.now) : Reacts (.renewing held record started) .timer
      (renewalFailed c m ((Turn.mk e []).emit .abandon) held false)
  | renewed : Reacts (.renewing held record started) (.answered (.written token))
      (hold c m ((Turn.mk e []).enter .leading) ⟨record, token, started⟩)
  | fails : Reacts (.renewing held record started) (.answered (.failed error))
      (renewalFailed c m ⟨e, []⟩ held (decide error.IsConflict))
  | reconsiders : Reacts (.rereading held) (.answered (.found current))
      (reconsider c m ⟨e, []⟩ held current)
  | resumes : Reacts (.rereading held) (.answered (.failed error)) (hold c m ⟨e, []⟩ held)
  | released : Reacts (.releasing deadline) (.answered (.written token))
      (finish ((Turn.mk e []).follow none) .cancelled)
  | goesUnreleased (begins : e.Begins t)
      (text : message = "timed out releasing lease" ∨ message = "failed to release lease")
      (fails : signal.Fails) :
      Reacts (.releasing deadline) signal
        (finish ((t.emit (.count .releaseFailures)).emit (.log (.warn message))) .cancelled)
  | notes (running : e.work = .running) (going : ∀ held reason, s ≠ .stopping held reason) :
      Reacts s (.workEnded panicked) ⟨{ e with work := .ended panicked }, []⟩
  | stepsDown (running : e.work = .running) :
      Reacts (.stopping held reason) (.workEnded panicked)
        (stepDown c m ⟨{ e with work := .ended panicked }, []⟩ held reason panicked)

variable {c m e} {signal : Signal τ}

theorem Reacts.at_stage {s : Stage τ} {t : Turn τ} (stage : e.stage = s)
    (reacts : Reacts c m e s signal t) : Reacts c m e e.stage signal t := by
  rw [stage]
  exact reacts

theorem onCancelled_reacts (cancels : signal.Cancels m) (heeds : e.stage.HeedsCancel) :
    Reacts c m e e.stage signal (onCancelled c m e) := by
  cases stage : e.stage with
  | reading deadline | claiming deadline record stamped =>
      simp only [onCancelled, stage]
      exact .withdraws .abandoning trivial cancels
  | waiting next =>
      simp only [onCancelled, stage]
      exact .withdraws .plain trivial cancels
  | holding held next =>
      simp only [onCancelled, stage]
      exact .quits .plain rfl cancels
  | renewing held record started | rereading held =>
      simp only [onCancelled, stage]
      exact .quits .abandoning rfl cancels
  | idle | stopping held reason | releasing deadline =>
      rw [stage] at heeds
      exact heeds.elim

theorem onTimer_reacts {due : Nat} (alarm : e.alarm? c = some due) (late : due ≤ m.now)
    (free : e.stage.HeedsCancel → m.cancelled = false) :
    Reacts c m e e.stage .timer (onTimer c m e) := by
  cases stage : e.stage with
  | reading deadline | claiming deadline record stamped =>
      simp only [onTimer, stage]
      exact .rests .abandoning trivial trivial
  | waiting next =>
      simp only [onTimer, stage]
      exact .retries
  | holding held next =>
      simp only [onTimer, stage]
      split
      next expired => exact .expires .plain rfl expired
      next early =>
        exact .renews (free (by simp [stage, Stage.HeedsCancel])) (Nat.lt_of_not_le early)
  | renewing held record started =>
      simp only [alarm?, stage, Option.some.injEq] at alarm
      simp only [onTimer, stage]
      exact .goesUnrenewed (alarm ▸ late)
  | rereading held =>
      simp only [alarm?, stage, Option.some.injEq] at alarm
      simp only [onTimer, stage]
      exact .expires .abandoning rfl (alarm ▸ late)
  | releasing deadline =>
      simp only [onTimer, stage]
      exact .goesUnreleased .abandoning (.inl rfl) trivial
  | idle | stopping held reason => simp [alarm?, stage] at alarm

theorem onAnswer_reacts {answer : StoreAnswer τ} (expected : e.stage.Expects answer) :
    Reacts c m e e.stage (.answered answer) (onAnswer c m e answer) := by
  cases stage : e.stage with
  | reading deadline =>
      cases answer with
      | found current =>
          simp only [onAnswer, stage]
          exact .considers
      | failed error =>
          simp only [onAnswer, stage]
          split
          next missing => exact .founds missing
          · exact .rests .plain trivial trivial
      | written token => simp [stage, Stage.Expects] at expected
  | claiming deadline record stamped =>
      cases answer with
      | written token =>
          simp only [onAnswer, stage]
          exact .acquires
      | failed error =>
          simp only [onAnswer, stage]
          exact .rests .plain trivial trivial
      | found current => simp [stage, Stage.Expects] at expected
  | renewing held record started =>
      cases answer with
      | written token =>
          simp only [onAnswer, stage]
          exact .renewed
      | failed error =>
          simp only [onAnswer, stage]
          exact .fails
      | found current => simp [stage, Stage.Expects] at expected
  | rereading held =>
      cases answer with
      | found current =>
          simp only [onAnswer, stage]
          exact .reconsiders
      | failed error =>
          simp only [onAnswer, stage]
          exact .resumes
      | written token => simp [stage, Stage.Expects] at expected
  | releasing deadline =>
      cases answer with
      | written token =>
          simp only [onAnswer, stage]
          exact .released
      | failed error =>
          simp only [onAnswer, stage]
          exact .goesUnreleased .plain (.inr rfl) trivial
      | found current => simp [stage, Stage.Expects] at expected
  | idle | waiting next | holding held next | stopping held reason =>
      simp [stage, Stage.Expects] at expected

omit [DecidableEq τ] in
theorem onCancelled_ignored (unheeded : ¬ e.stage.HeedsCancel) : onCancelled c m e = ⟨e, []⟩ := by
  cases stage : e.stage <;> simp_all [onCancelled, Stage.HeedsCancel]

omit [DecidableEq τ] in
theorem onWorkEnded_stopping {held : Held τ} {reason : StopReason} {panicked : Bool}
    (stage : e.stage = .stopping held reason) :
    onWorkEnded c m e panicked =
      stepDown c m ⟨{ e with work := .ended panicked }, []⟩ held reason panicked := by
  simp only [onWorkEnded, stage]

omit [DecidableEq τ] in
theorem onWorkEnded_going {panicked : Bool}
    (going : ∀ held reason, e.stage ≠ .stopping held reason) :
    onWorkEnded c m e panicked = ⟨{ e with work := .ended panicked }, []⟩ := by
  cases stage : e.stage with
  | stopping held reason => exact absurd stage (going held reason)
  | _ => simp only [onWorkEnded, stage]

/-- An answer of the wrong kind changes nothing. -/
theorem onAnswer_ignored {answer : StoreAnswer τ} (unexpected : ¬ e.stage.Expects answer) :
    onAnswer c m e answer = ⟨e, []⟩ := by
  cases stage : e.stage <;> cases answer <;>
    simp_all [onAnswer, Stage.Expects]

/-- The one case analysis of a step. -/
theorem step_reacts (c : ElectionConfig) (m : Moment) (e : Elector τ) (signal : Signal τ) :
    Reacts c m e e.stage signal (e.step c m signal) := by
  cases signal with
  | start =>
      simp only [step, onStart]
      split
      next idle => exact .at_stage idle .starts
      next busy => exact .ignores busy
  | cancelled =>
      by_cases heeds : e.stage.HeedsCancel
      · exact onCancelled_reacts trivial heeds
      · rw [step, onCancelled_ignored heeds]
        exact .ignores heeds
  | answered answer =>
      by_cases expected : e.stage.Expects answer
      · exact onAnswer_reacts expected
      · rw [step, onAnswer_ignored expected]
        exact .ignores expected
  | timer =>
      simp only [step]
      split
      next due alarm =>
        split
        next early => exact .ignores fun other same => by rwa [Option.some.inj (same.symm.trans alarm)]
        next late =>
          split
          next heeded => exact onCancelled_reacts heeded.1 heeded.2
          next unheeded =>
            exact onTimer_reacts alarm (Nat.le_of_not_lt late) fun heeds => by
              simpa [heeds] using unheeded
      next none => exact .ignores fun due same => by simp [none] at same
  | workEnded panicked =>
      simp only [step]
      split
      next running =>
        by_cases stops : ∃ held reason, e.stage = .stopping held reason
        · obtain ⟨held, reason, stage⟩ := stops
          rw [onWorkEnded_stopping stage]
          exact .at_stage stage (.stepsDown running)
        · rw [onWorkEnded_going (by simpa using stops)]
          exact .notes running (by simpa using stops)
      next ended => exact .ignores ended

end Elector

end LeaseElection
