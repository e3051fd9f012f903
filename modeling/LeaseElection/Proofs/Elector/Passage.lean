import LeaseElection.Proofs.Elector.Frame

namespace LeaseElection.Elector

/-- The claim that a participant has once it has taken note of a signal. -/
inductive Keeps {τ : Type} (identity : String) : Stage τ → Signal τ → Held τ → Prop
  | claimed : Keeps identity (.claiming deadline record stamped) (.answered (.written token))
      ⟨record, token, stamped⟩
  | holding : Keeps identity (.holding held next) signal held
  | renewed : Keeps identity (.renewing held record started) (.answered (.written token))
      ⟨record, token, started⟩
  | unrenewed (unwritten : ∀ token : τ, signal ≠ .answered (.written token)) :
      Keeps identity (.renewing held record started) signal held
  | refreshed (own : current.record.IsHeldBy identity) :
      Keeps identity (.rereading held) (.answered (.found current))
        ⟨current.record, current.token, held.stamped⟩
  | unrefreshed : Keeps identity (.rereading held) signal held
  | stopping : Keeps identity (.stopping held reason) signal held

/-- A signal on which an attempt to acquire the lease begins. -/
inductive Attempts {τ : Type} : Stage τ → Signal τ → Prop
  | first : Attempts .idle .start
  | again : Attempts (.waiting next) .timer

variable {τ : Type} (c : ElectionConfig) (m : Moment) (after : Elector τ)

/-- Why a participant lets go of the claim that it has. -/
inductive Leaves : Stage τ → Signal τ → Held τ → StopReason → Prop
  | cancelled (kept : Keeps c.identity s signal held) (heeds : s.HeedsCancel)
      (cancelled : m.cancelled = true ∨ signal = .cancelled) : Leaves s signal held .cancelled
  | late (kept : Keeps c.identity s signal held) (heeds : s.HeedsCancel)
      (late : renewBy c held ≤ m.now)
      (heard : signal = .timer ∨ ∃ answer, s.Expects answer ∧ signal = .answered answer) :
      Leaves s signal held (.lost none)
  | supplanted (foreign : ¬ current.record.IsHeldBy c.identity) :
      Leaves (.rereading held) (.answered (.found current)) held
        (.lost (if current.record.IsVacant then none else some current.record.holder))
  | stopping : Leaves (.stopping held reason) (.workEnded panicked) held reason

/-- Where a participant goes that lets go of its claim. -/
inductive Parting (held : Held τ) :
    StopReason → Stage τ → List (StoreCall τ) → List ElectionOutcome → Prop
  | stops : Parting held reason (.stopping held reason) [] []
  | departs (wanted : c.releaseOnCancel = true) :
      Parting held .cancelled (.releasing (m.now + c.renewDeadline.nanoseconds))
        [.update (held.record.released m.wall) held.token] []
  | quits (unwanted : c.releaseOnCancel = false) : Parting held .cancelled .idle [] [.cancelled]
  | loses : Parting held (.lost successor) .idle [] [.leadershipLost]

/-- From which stage a signal leads to which stage, the calls that are begun on the way, and the
outcomes with which the run ends. -/
inductive Passage :
    Stage τ → Signal τ → Stage τ → List (StoreCall τ) → List ElectionOutcome → Prop
  | stays (unasked : ∀ answer : StoreAnswer τ, signal ≠ .answered answer) :
      Passage s signal s [] []
  | withdraws (seeks : Attempts s signal ∨ s.Seeks)
      (unwritten : ∀ token : τ, signal ≠ .answered (.written token))
      (cancelled : m.cancelled = true ∨ signal = .cancelled) :
      Passage s signal .idle [] [.cancelled]
  | reads (attempts : Attempts s signal) (free : m.cancelled = false) :
      Passage s signal (.reading (m.now + c.renewDeadline.nanoseconds)) [.get] []
  | takes (free : m.cancelled = false) (claimable : IsClaimable m after current.record) :
      Passage (.reading deadline) (.answered (.found current))
        (.claiming deadline (current.record.takenOverBy c.identity c.lease m.wall) m.now)
        [.update (current.record.takenOverBy c.identity c.lease m.wall) current.token] []
  | creates (free : m.cancelled = false) (missing : error.IsNotFound) :
      Passage (.reading deadline) (.answered (.failed error))
        (.claiming deadline (.claimed c.identity c.lease m.wall) m.now)
        [.create (.claimed c.identity c.lease m.wall)] []
  | rests (seeks : s.Seeks) (unwritten : ∀ token : τ, signal ≠ .answered (.written token))
      (free : m.cancelled = false) :
      Passage s signal (.waiting (m.now + c.retryPeriod.nanoseconds)) [] []
  | holds (expected : s.Expects answer) (kept : Keeps c.identity s (.answered answer) held)
      (free : m.cancelled = false) (early : m.now < renewBy c held) :
      Passage s (.answered answer)
        (.holding held (min (m.now + c.retryPeriod.nanoseconds) (renewBy c held))) [] []
  | renews (free : m.cancelled = false) (early : m.now < renewBy c held) :
      Passage (.holding held next) .timer
        (.renewing held (held.record.renewed c.lease m.wall) m.now)
        [.update (held.record.renewed c.lease m.wall) held.token] []
  | rereads (free : m.cancelled = false) (conflict : error.IsConflict) :
      Passage (.renewing held record started) (.answered (.failed error)) (.rereading held) [.get] []
  | leaves (why : Leaves c m s signal held reason)
      (parting : Parting c m held reason s' calls outcomes) : Passage s signal s' calls outcomes
  | concludes (heard : signal = .timer ∨ ∃ answer, signal = .answered answer) :
      Passage (.releasing deadline) signal .idle [] [.cancelled]

variable {c m after} {identity : String} {s : Stage τ} {signal : Signal τ} {t : Turn τ}
  {held : Held τ} {reason : StopReason}

theorem Leaves.kept (why : Leaves c m s signal held reason) :
    Keeps c.identity s signal held := by
  cases why with
  | cancelled kept heeds cancelled => exact kept
  | late kept heeds late heard => exact kept
  | supplanted foreign => exact .unrefreshed
  | stopping => exact .stopping

/-- Whoever lets go of its claim does not lead by it any longer. -/
theorem Parting.resigned {s' : Stage τ} {calls : List (StoreCall τ)}
    {outcomes : List ElectionOutcome} (parting : Parting c m held reason s' calls outcomes) :
    s'.held? = none := by
  cases parting <;> rfl

/-- Whoever leads keeps its claim, unless it is told that a renewal was written. -/
theorem keeps_of_leads (leads : s.held? = some held)
    (unwritten : ∀ token, signal ≠ .answered (.written token)) : Keeps identity s signal held := by
  cases s with
  | holding held next =>
      cases leads
      exact .holding
  | renewing held record started =>
      cases leads
      exact .unrenewed unwritten
  | rereading held =>
      cases leads
      exact .unrefreshed
  | _ => cases leads

theorem heedsCancel_of_leads (leads : s.held? = some held) : s.HeedsCancel := by
  cases s with
  | holding held next | renewing held record started | rereading held => trivial
  | _ => cases leads

/-- A turn that comes to a passage. -/
def Passes (c : ElectionConfig) (m : Moment) (after : Elector τ) (s : Stage τ) (signal : Signal τ)
    (t : Turn τ) : Prop := Passage c m after s signal t.elector.stage t.calls t.outcomes

theorem depart_parts (quiet : t.calls = [] ∧ t.outcomes = []) :
    Parting c m held .cancelled (depart c m t held).elector.stage (depart c m t held).calls
      (depart c m t held).outcomes := by
  unfold depart
  split
  next wanted =>
    simpa [release, quiet, Effect.call?, Effect.outcome?] using Parting.departs wanted
  next unwanted =>
    simpa [finish, quiet, Effect.call?, Effect.outcome?] using Parting.quits (by simpa using unwanted)

theorem stepDown_parts (quiet : t.calls = [] ∧ t.outcomes = []) (panicked : Bool) :
    Parting c m held reason (stepDown c m t held reason panicked).elector.stage
      (stepDown c m t held reason panicked).calls
      (stepDown c m t held reason panicked).outcomes := by
  cases reason with
  | cancelled =>
      apply depart_parts
      cases panicked <;> simp [quiet, Effect.call?, Effect.outcome?]
  | lost successor =>
      cases successor <;> cases panicked <;>
        simpa [stepDown, finish, quiet, Effect.call?, Effect.outcome?] using Parting.loses

theorem stop_parts (quiet : t.calls = [] ∧ t.outcomes = []) :
    Parting c m held reason (stop c m t held reason).elector.stage
      (stop c m t held reason).calls (stop c m t held reason).outcomes := by
  cases work : t.elector.work with
  | ended panicked =>
      simpa [stop, work] using stepDown_parts
        (t := (t.enter .releasing).emit .cancelWork)
        (by simp [quiet, Effect.call?, Effect.outcome?]) panicked
  | absent | running =>
      simpa [stop, work, quiet, Effect.call?, Effect.outcome?] using Parting.stops

theorem stop_passes (why : Leaves c m s signal held reason)
    (quiet : t.calls = [] ∧ t.outcomes = []) :
    Passes c m after s signal (stop c m t held reason) := .leaves why (stop_parts quiet)

/-- A leader goes on only upon an answer of the store. -/
theorem hold_passes (kept : Keeps c.identity s signal held) (heeds : s.HeedsCancel)
    (heard : (signal = .timer ∧ renewBy c held ≤ m.now) ∨
      ∃ answer, s.Expects answer ∧ signal = .answered answer)
    (quiet : t.calls = [] ∧ t.outcomes = []) : Passes c m after s signal (hold c m t held) := by
  unfold hold
  split
  next cancelled => exact stop_passes (.cancelled kept heeds (.inl cancelled)) quiet
  next free =>
    split
    next late =>
      exact stop_passes (.late kept heeds late (heard.imp_left And.left))
        (by simp [quiet, Effect.call?, Effect.outcome?])
    next early =>
      rcases heard with ⟨-, late⟩ | ⟨answer, expected, rfl⟩
      · exact absurd late early
      · simpa [Passes, quiet] using
          Passage.holds expected kept (by simpa using free) (Nat.lt_of_not_le early)

theorem renewalFailed_passes {record : LeaseRecord} {started : Nat} {stale : Bool}
    (unwritten : ∀ token : τ, signal ≠ .answered (.written token))
    (heard : (signal = .timer ∧ renewBy c held ≤ m.now) ∨ ∃ answer,
      (Stage.renewing held record started).Expects answer ∧ signal = .answered answer)
    (cause : stale = true → ∃ error, error.IsConflict ∧ signal = .answered (.failed error))
    (quiet : t.calls = [] ∧ t.outcomes = []) :
    Passes c m after (.renewing held record started) signal (renewalFailed c m t held stale) := by
  have kept : Keeps c.identity (.renewing held record started) signal held := .unrenewed unwritten
  have counted : (t.emit (.count .renewFailures)).calls = [] ∧
      (t.emit (.count .renewFailures)).outcomes = [] := by
    simp [quiet, Effect.call?, Effect.outcome?]
  unfold renewalFailed
  split
  next stale =>
    unfold reread
    split
    next cancelled => exact stop_passes (.cancelled kept trivial (.inl cancelled)) counted
    next free =>
      obtain ⟨error, conflict, rfl⟩ := cause stale
      simpa [Passes, quiet, Effect.call?, Effect.outcome?] using
        Passage.rereads (by simpa using free) conflict
  · exact hold_passes kept trivial heard counted

theorem reconsider_passes {current : Versioned τ} (identity : t.identity = c.identity)
    (quiet : t.calls = [] ∧ t.outcomes = []) :
    Passes c m after (.rereading held) (.answered (.found current))
      (reconsider c m t held current) := by
  unfold reconsider
  split
  next own =>
    exact hold_passes (.refreshed (identity ▸ own)) trivial (.inr ⟨.found current, trivial, rfl⟩)
      quiet
  next foreign =>
    exact stop_passes (.supplanted (identity ▸ foreign))
      (by simp [quiet, Effect.call?, Effect.outcome?])

theorem finish_passes (seeks : Attempts s signal ∨ s.Seeks)
    (unwritten : ∀ token, signal ≠ .answered (.written token))
    (cancelled : m.cancelled = true ∨ signal = .cancelled)
    (quiet : t.calls = [] ∧ t.outcomes = []) :
    Passes c m after s signal (finish t .cancelled) := by
  simpa [Passes, finish, quiet, Effect.call?, Effect.outcome?] using
    Passage.withdraws seeks unwritten cancelled

theorem attempt_passes (attempts : Attempts s signal) (quiet : t.calls = [] ∧ t.outcomes = []) :
    Passes c m after s signal (attempt c m t) := by
  unfold attempt
  split
  next cancelled =>
    refine finish_passes (.inl attempts) ?_ (.inl cancelled) quiet
    rintro token rfl
    cases attempts
  next free =>
    simpa [Passes, quiet, Effect.call?, Effect.outcome?] using
      Passage.reads attempts (by simpa using free)

theorem rest_passes (seeks : s.Seeks) (unwritten : ∀ token, signal ≠ .answered (.written token))
    (quiet : t.calls = [] ∧ t.outcomes = []) : Passes c m after s signal (rest c m t) := by
  unfold rest
  split
  next cancelled => exact finish_passes (.inr seeks) unwritten (.inl cancelled) quiet
  next free => simpa [Passes, quiet] using Passage.rests seeks unwritten (by simpa using free)

theorem acquired_passes {deadline : Nat} {record : LeaseRecord} {stamped : Nat} {token : τ}
    (quiet : t.calls = [] ∧ t.outcomes = []) :
    Passes c m after (.claiming deadline record stamped) (.answered (.written token))
      (acquired c m t ⟨record, token, stamped⟩) := by
  unfold acquired
  split
  next cancelled =>
    refine .leaves (.cancelled .claimed trivial (.inl cancelled)) (depart_parts ?_)
    split <;> simp [quiet, Effect.call?, Effect.outcome?]
  · exact hold_passes .claimed trivial (.inr ⟨.written token, trivial, rfl⟩)
      (by simp [quiet, Effect.call?, Effect.outcome?])

theorem isClaimable_congr {e e' : Elector τ} (record : LeaseRecord)
    (identity : e.status.identity = e'.status.identity) (sighting : e.sighting = e'.sighting) :
    IsClaimable m e record ↔ IsClaimable m e' record := by
  simp only [IsClaimable, IsStale, identity, sighting]

theorem consider_passes [DecidableEq τ] {deadline : Nat} {current : Versioned τ}
    (identity : t.identity = c.identity) (quiet : t.calls = [] ∧ t.outcomes = []) :
    Passes c m (consider c m t deadline current).elector (.reading deadline)
      (.answered (.found current)) (consider c m t deadline current) := by
  unfold consider
  simp only [observe_identity, identity]
  split
  next claimable =>
    have same := claim_frame (m := m) (t := observe m t current) deadline
      (current.record.takenOverBy c.identity c.lease m.wall)
      (.update (current.record.takenOverBy c.identity c.lease m.wall) current.token)
    rw [← isClaimable_congr _ same.2 same.1] at claimable
    revert claimable
    unfold claim
    split
    next cancelled =>
      intro _
      exact finish_passes (.inr trivial) (by simp) (.inl cancelled) (by simp [quiet])
    next free =>
      intro claimable
      simpa [Passes, quiet, Effect.call?, Effect.outcome?] using
        Passage.takes (by simpa using free) claimable
  · exact rest_passes trivial (by simp) (by simp [quiet])

theorem found_passes {deadline : Nat} {error : StoreError} (missing : error.IsNotFound)
    (identity : t.identity = c.identity) (quiet : t.calls = [] ∧ t.outcomes = []) :
    Passes c m after (.reading deadline) (.answered (.failed error)) (found c m t deadline) := by
  unfold found claim
  simp only [identity]
  split
  next cancelled => exact finish_passes (.inr trivial) (by simp) (.inl cancelled) quiet
  next free =>
    simpa [Passes, quiet, Effect.call?, Effect.outcome?] using
      Passage.creates (by simpa using free) missing

/-- What any reaction to a signal comes to, provided that answers fit the call under way. -/
theorem step_passes [DecidableEq τ] {e : Elector τ} (identity : e.status.identity = c.identity)
    (expected : ∀ answer, signal = .answered answer → e.stage.Expects answer) :
    Passage c m (e.step c m signal).elector e.stage signal (e.step c m signal).elector.stage
      (e.step c m signal).calls (e.step c m signal).outcomes := by
  have reacts := step_reacts c m e signal
  have quiet : (Turn.mk e []).calls = [] ∧ (Turn.mk e []).outcomes = [] := ⟨rfl, rfl⟩
  generalize stage : e.stage = s at reacts
  generalize e.step c m signal = t at reacts ⊢
  cases reacts with
  | ignores ignores =>
      refine stage ▸ .stays ?_
      rintro answer rfl
      exact ignores (expected answer rfl)
  | starts => exact attempt_passes .first (by simp)
  | withdraws begins seeks cancels =>
      exact finish_passes (.inr seeks) (fun token => cancels.unasked _) cancels.noticed begins.quiet
  | quits begins leads cancels =>
      exact stop_passes (.cancelled (keeps_of_leads leads fun token => cancels.unasked _)
        (heedsCancel_of_leads leads) cancels.noticed) begins.quiet
  | retries => exact attempt_passes .again quiet
  | rests begins seeks fails => exact rest_passes seeks fails.unwritten begins.quiet
  | considers => exact consider_passes identity quiet
  | founds missing => exact found_passes missing identity quiet
  | acquires => exact acquired_passes quiet
  | renews free early =>
      simpa [Passes, renew, Effect.call?, Effect.outcome?] using Passage.renews free early
  | expires begins leads late =>
      exact hold_passes (keeps_of_leads leads (by simp)) (heedsCancel_of_leads leads)
        (.inl ⟨rfl, late⟩) begins.quiet
  | goesUnrenewed late =>
      exact renewalFailed_passes (by simp) (.inl ⟨rfl, late⟩) (by simp)
        (by simp [Effect.call?, Effect.outcome?])
  | @renewed _ _ _ token =>
      exact hold_passes .renewed trivial (.inr ⟨.written token, trivial, rfl⟩) (by simp)
  | @fails _ _ _ error =>
      exact renewalFailed_passes (by simp) (.inr ⟨.failed error, trivial, rfl⟩)
        (fun conflict => ⟨error, by simpa using conflict, rfl⟩) quiet
  | reconsiders => exact reconsider_passes identity quiet
  | @resumes _ error =>
      exact hold_passes .unrefreshed trivial (.inr ⟨.failed error, trivial, rfl⟩) quiet
  | released =>
      simpa [Passes, finish, Effect.call?, Effect.outcome?] using
        Passage.concludes (.inr ⟨_, rfl⟩)
  | goesUnreleased begins text fails =>
      have heard : signal = .timer ∨ ∃ answer, signal = .answered answer := by
        cases signal with
        | timer => exact .inl rfl
        | answered answer => exact .inr ⟨answer, rfl⟩
        | _ => exact fails.elim
      simpa [Passes, finish, begins.quiet, Effect.call?, Effect.outcome?] using
        Passage.concludes heard
  | notes running going => exact stage ▸ .stays (by simp)
  | stepsDown running => exact .leaves .stopping (stepDown_parts quiet _)

/-- Whoever does not seek the lease comes to seek it only where a run starts. -/
theorem Passage.unseeking {s' : Stage τ} {calls : List (StoreCall τ)}
    {outcomes : List ElectionOutcome} (passage : Passage c m after s signal s' calls outcomes)
    (begun : signal ≠ .start) (settled : ¬ s.Seeks) : ¬ s'.Seeks := by
  cases passage with
  | stays => exact settled
  | reads attempts =>
      cases attempts with
      | first => exact absurd rfl begun
      | again => exact absurd trivial settled
  | takes | creates => exact absurd trivial settled
  | rests seeks => exact absurd seeks settled
  | withdraws | holds | renews | rereads | concludes => exact id
  | leaves why parting => cases parting <;> exact id

/-- Whoever returns is idle then. -/
theorem Passage.idle_of_returns {s' : Stage τ} {calls : List (StoreCall τ)}
    {outcomes : List ElectionOutcome} (passage : Passage c m after s signal s' calls outcomes)
    {outcome : ElectionOutcome} (returns : outcome ∈ outcomes) : s' = .idle := by
  cases passage with
  | withdraws | concludes => rfl
  | leaves why parting =>
      cases parting with
      | quits | loses => rfl
      | stops | departs => cases returns
  | stays | reads | takes | creates | rests | holds | renews | rereads => cases returns

/-- Whoever is idle stays so until a run starts. -/
theorem Passage.idle {s' : Stage τ} {calls : List (StoreCall τ)} {outcomes : List ElectionOutcome}
    (passage : Passage c m after .idle signal s' calls outcomes) (begun : signal ≠ .start) :
    s' = .idle := by
  cases passage with
  | stays | withdraws => rfl
  | reads attempts =>
      cases attempts
      exact absurd rfl begun
  | rests seeks => exact seeks.elim
  | holds expected => exact expected.elim
  | leaves why => cases why.kept

end LeaseElection.Elector
