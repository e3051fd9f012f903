import LeaseElection.Proofs.Course.Lawful
import LeaseElection.Proofs.Election.Resolution

/-!
# Renewals that fail one at a time

A store answers at once, the caller does not cancel, and no two renewals in a row fail. A leader
stays in office through all that just where its renew deadline is longer than two retry periods: a
renewal that failed is then made up for before the deadline comes. Where the two are equal, the
timer for the second renewal and the deadline come due together, and the deadline goes first.
-/
namespace LeaseElection

namespace Elector

variable {τ : Type} {c : ElectionConfig} {m : Moment} {t : Turn τ} {held : Held τ}

theorem hold_of_early (free : m.cancelled = false) (early : m.now < renewBy c held) :
    hold c m t held =
      t.become (.holding held (min (m.now + c.retryPeriod.nanoseconds) (renewBy c held))) := by
  simp [hold, free, Nat.not_le_of_lt early]

variable [DecidableEq τ] {e : Elector τ}

theorem step_claimed {deadline stamped : Nat} {record : LeaseRecord} (token : τ)
    (stage : e.stage = .claiming deadline record stamped) (free : m.cancelled = false)
    (early : m.now < renewBy c ⟨record, token, stamped⟩) :
    (e.step c m (.answered (.written token))).elector.stage =
        .holding ⟨record, token, stamped⟩
          (min (m.now + c.retryPeriod.nanoseconds) (renewBy c ⟨record, token, stamped⟩)) ∧
      (e.step c m (.answered (.written token))).elector.work = .running := by
  simp only [step, onAnswer, stage, acquired, free, Bool.false_eq_true, if_false, lead,
    hold_of_early free early]
  exact ⟨rfl, rfl⟩

theorem step_unrenewed {started : Nat} {record : LeaseRecord} (error : StoreError)
    (stage : e.stage = .renewing held record started) (free : m.cancelled = false)
    (passing : ¬ error.IsConflict) (early : m.now < renewBy c held) :
    (e.step c m (.answered (.failed error))).elector.stage =
        .holding held (min (m.now + c.retryPeriod.nanoseconds) (renewBy c held)) ∧
      (e.step c m (.answered (.failed error))).elector.work = e.work := by
  simp only [step, onAnswer, stage, renewalFailed, passing, decide_false, Bool.false_eq_true,
    if_false, hold_of_early free early]
  exact ⟨rfl, rfl⟩

theorem step_due {next : Nat} (stage : e.stage = .holding held next) (free : m.cancelled = false)
    (due : next ≤ m.now) (early : m.now < renewBy c held) :
    (e.step c m .timer).elector.stage =
        .renewing held (held.record.renewed c.lease m.wall) m.now ∧
      (e.step c m .timer).elector.work = e.work := by
  have alarm : e.alarm? c = some next := by simp [alarm?, stage]
  simp only [step, alarm, Nat.not_lt_of_le due, if_false, free, Bool.false_eq_true, false_and,
    onTimer, stage, Nat.not_le_of_lt early, renew, Turn.emit_elector, Turn.become_elector]
  exact ⟨trivial, by simp⟩

theorem step_overdue {next : Nat} (stage : e.stage = .holding held next)
    (free : m.cancelled = false) (due : next ≤ m.now) (late : renewBy c held ≤ m.now)
    (running : e.work = .running) :
    (e.step c m .timer).elector.stage = .stopping held (.lost none) := by
  have alarm : e.alarm? c = some next := by simp [alarm?, stage]
  simp only [step, alarm, Nat.not_lt_of_le due, if_false, free, Bool.false_eq_true, false_and,
    onTimer, stage, late, if_true, hold, stop]
  simp [running]

end Elector

/-- A renewal is under way, or the reading that follows a stale token. -/
def Stage.Renews : Stage τ → Prop
  | .renewing .. | .rereading _ => True
  | _ => False

/-- What a leader may hear where no two renewals in a row fail. The first of the two marks says
whether the latest renewal failed before the signal, the second whether it did by then. -/
inductive Signal.Isolated {τ : Type} (identity : String) : Stage τ → Signal τ → Bool → Bool → Prop
  | renewed : Isolated identity (.renewing held record started) (.answered (.written token))
      failed false
  | failed : Isolated identity (.renewing held record started) (.answered (.failed error))
      false true
  | kept (own : current.record.IsHeldBy identity) :
      Isolated identity (.rereading held) (.answered (.found current)) failed failed
  | other (elsewhere : s.Renews → ∀ answer, signal ≠ .answered answer) :
      Isolated identity s signal failed failed

theorem Signal.Isolated.unanswered {identity : String} {s : Stage τ} {signal : Signal τ}
    {failed again : Bool} (isolated : signal.Isolated identity s failed again)
    (unasked : ∀ answer, signal ≠ .answered answer) : again = failed := by
  cases isolated with
  | renewed | failed => exact absurd rfl (unasked _)
  | kept own | other elsewhere => rfl

namespace Course

variable [DecidableEq τ] (c : ElectionConfig)

/-- A run that is never cancelled, with a store that answers at once and timers that fire on time,
in which no two renewals in a row fail; whether the latest renewal failed. What went before the run
does not matter. -/
inductive Steady : Bool → Course τ → Prop
  | start {k : Course τ} (reachable : Reachable c ⟨false, false⟩ k) (wall : Instant)
      (allowed : k.Allows (.start false)) : Steady false (k.after c wall (.start false))
  | hear {k : Course τ} {failed again : Bool} (steady : Steady failed k) (wall : Instant)
      (signal : Signal τ) (allowed : k.Allows (.hear signal))
      (isolated : signal.Isolated c.identity k.elector.stage failed again) :
      Steady again (k.hear c wall signal)
  | pass {k : Course τ} {failed : Bool} (steady : Steady failed k) (time : Nat)
      (answered : ¬ k.elector.stage.Calls)
      (punctual : ∀ due, k.elector.alarm? c = some due → k.now + time ≤ due) :
      Steady failed (k.pass time)

/-- Whoever has come to lead in this run leads. -/
structure StaysInOffice (k : Course τ) : Prop where
  leads : Trace.Saw Event.starts k.trace → k.elector.status.IsLeader
  unstopped : ¬ Trace.Saw Event.stops k.trace
  unlost : ¬ Trace.Saw Event.loses k.trace

end Course

/-- How long after the last acknowledged write the next renewal may come. -/
def ElectionConfig.patience (c : ElectionConfig) (failed : Bool) : Nat :=
  if failed then 2 * c.retryPeriod.nanoseconds else c.retryPeriod.nanoseconds

@[simp] theorem ElectionConfig.patience_false (c : ElectionConfig) :
    c.patience false = c.retryPeriod.nanoseconds := rfl

@[simp] theorem ElectionConfig.patience_true (c : ElectionConfig) :
    c.patience true = 2 * c.retryPeriod.nanoseconds := rfl

/-- How the times of a stage relate where renewals fail one at a time. -/
def Stage.Paced (c : ElectionConfig) (failed : Bool) (now : Nat) : Stage τ → Prop
  | .reading _ | .waiting _ => failed = false
  | .claiming _ _ stamped => failed = false ∧ stamped = now
  | .holding held next => now ≤ next ∧ next ≤ held.stamped + c.patience failed
  | .renewing held _ started => started = now ∧ now ≤ held.stamped + c.patience failed
  | .rereading held => failed = true ∧ now ≤ held.stamped + c.retryPeriod.nanoseconds
  | .idle | .stopping .. | .releasing _ => False

namespace Elector

variable {τ : Type} {c : ElectionConfig} {m : Moment} {held : Held τ}

theorem holding_paced {failed : Bool}
    (soon : m.now + c.retryPeriod.nanoseconds ≤ held.stamped + c.patience failed)
    (early : m.now < renewBy c held) :
    Stage.Paced c failed m.now
      (.holding held (min (m.now + c.retryPeriod.nanoseconds) (renewBy c held))) :=
  ⟨by omega, Nat.le_trans (Nat.min_le_left _ _) soon⟩

/-- Where there is room for two retry periods, what comes within them comes before the deadline. -/
theorem early_of_soon (roomy : 2 * c.retryPeriod.nanoseconds < c.renewDeadline.nanoseconds)
    {failed : Bool} {now : Nat} (soon : now ≤ held.stamped + c.patience failed) :
    now < renewBy c held := by
  have patient : c.patience failed < c.renewDeadline.nanoseconds := by
    cases failed
    · rw [c.patience_false]
      omega
    · exact roomy
  exact Nat.lt_of_le_of_lt soon (Nat.add_lt_add_left patient _)

variable {t : Turn τ}

theorem attempt_stage (free : m.cancelled = false) :
    (attempt c m t).elector.stage = .reading (m.now + c.renewDeadline.nanoseconds) := by
  simp [attempt, free]

theorem claim_stage (free : m.cancelled = false) (deadline : Nat) (record : LeaseRecord)
    (call : StoreCall τ) :
    (claim m t deadline record call).elector.stage = .claiming deadline record m.now := by
  simp [claim, free]

variable {s s' : Stage τ} {signal : Signal τ} {failed again : Bool} {after : Elector τ}

/-- A claim that is kept is one within its renew deadline. -/
theorem Keeps.early (roomy : 2 * c.retryPeriod.nanoseconds < c.renewDeadline.nanoseconds)
    (kept : Keeps c.identity s signal held) (paced : s.Paced c failed m.now) :
    m.now < renewBy c held := by
  cases kept with
  | claimed =>
      have now := paced.2
      simp only [renewBy]
      omega
  | renewed =>
      have now := paced.1
      simp only [renewBy]
      omega
  | holding => exact early_of_soon roomy (Nat.le_trans paced.1 paced.2)
  | unrenewed => exact early_of_soon roomy paced.2
  | refreshed | unrefreshed =>
      exact early_of_soon roomy (show m.now ≤ _ + c.patience false from paced.2)
  | stopping => exact paced.elim

/-- A leader that goes on makes up for one renewal that failed. -/
theorem Keeps.soon {answer : StoreAnswer τ} (kept : Keeps c.identity s (.answered answer) held)
    (expected : s.Expects answer)
    (isolated : (Signal.answered answer).Isolated c.identity s failed again)
    (paced : s.Paced c failed m.now) :
    m.now + c.retryPeriod.nanoseconds ≤ held.stamped + c.patience again := by
  cases kept with
  | claimed =>
      obtain ⟨rfl, now⟩ := paced
      cases isolated
      simp [now]
  | renewed =>
      have now := paced.1
      cases isolated with
      | renewed => simp [now]
      | other elsewhere => exact absurd rfl (elsewhere trivial _)
  | unrenewed unwritten =>
      have soon := paced.2
      cases isolated with
      | renewed => exact absurd rfl (unwritten _)
      | failed =>
          simp only [c.patience_false, c.patience_true] at soon ⊢
          omega
      | other elsewhere => exact absurd rfl (elsewhere trivial _)
  | refreshed own | unrefreshed =>
      obtain ⟨rfl, soon⟩ := paced
      cases isolated with
      | kept own =>
          simp only [c.patience_true]
          omega
      | other elsewhere => exact absurd rfl (elsewhere trivial _)
  | holding | stopping => exact expected.elim

/-- One reaction: whatever the store said, the next renewal comes in time. -/
theorem Passage.paced {calls : List (StoreCall τ)} {outcomes : List ElectionOutcome}
    (passage : Passage c m after s signal s' calls outcomes)
    (roomy : 2 * c.retryPeriod.nanoseconds < c.renewDeadline.nanoseconds)
    (free : ¬ (m.cancelled = true ∨ signal = .cancelled))
    (isolated : signal.Isolated c.identity s failed again) (paced : s.Paced c failed m.now) :
    s'.Paced c again m.now := by
  cases passage with
  | stays unasked => rwa [isolated.unanswered unasked]
  | withdraws seeks unwritten cancelled => exact absurd cancelled free
  | reads attempts =>
      cases attempts with
      | first => exact paced.elim
      | again => rwa [isolated.unanswered (by simp)]
  | takes | creates =>
      cases isolated
      exact ⟨paced, rfl⟩
  | rests seeks =>
      cases s with
      | reading deadline | waiting next =>
          cases isolated
          exact paced
      | claiming deadline record stamped =>
          cases isolated
          exact paced.1
      | _ => exact seeks.elim
  | holds expected kept _ early => exact holding_paced (kept.soon expected isolated paced) early
  | renews =>
      cases isolated
      exact ⟨rfl, Nat.le_trans paced.1 paced.2⟩
  | rereads =>
      cases isolated with
      | failed => exact ⟨rfl, paced.2⟩
      | other elsewhere => exact absurd rfl (elsewhere trivial _)
  | leaves why parting =>
      cases why with
      | cancelled kept heeds cancelled => exact absurd cancelled free
      | late kept heeds late heard => exact absurd late (Nat.not_le_of_lt (kept.early roomy paced))
      | supplanted foreign =>
          cases isolated with
          | kept own => exact absurd own foreign
          | other elsewhere => exact absurd rfl (elsewhere trivial _)
      | stopping => exact paced.elim
  | concludes => exact paced.elim

end Elector

namespace Course

variable [DecidableEq τ] {c : ElectionConfig} {k : Course τ} {failed again : Bool}

theorem Steady.reachable (steady : Steady c failed k) : Reachable c ⟨false, false⟩ k := by
  induction steady with
  | start reachable wall allowed => exact reachable.does wall (.start false) allowed
  | hear steady wall signal allowed isolated ih => exact ih.does wall (.hear _) allowed
  | pass steady time answered punctual ih => exact ih.waits time ⟨nofun, nofun⟩

theorem Steady.free (steady : Steady c failed k) : k.cancelled = false := by
  induction steady with
  | start reachable wall allowed => rfl
  | hear steady wall signal allowed isolated ih => exact ih
  | pass steady time answered punctual ih => exact ih

theorem Steady.paced (roomy : 2 * c.retryPeriod.nanoseconds < c.renewDeadline.nanoseconds)
    (steady : Steady c failed k) : k.elector.stage.Paced c failed k.now := by
  induction steady with
  | @start k reachable wall allowed =>
      have idle : k.elector.stage = .idle := allowed
      change (Elector.step c _ k.elector .start).elector.stage.Paced c false k.now
      simp only [Elector.step, Elector.onStart, idle]
      rw [Elector.attempt_stage rfl]
      rfl
  | @hear k failed again steady wall signal allowed isolated ih =>
      have passage := Elector.step_passes (m := k.moment wall)
        steady.reachable.orderly.identity allowed.expected
      refine passage.paced roomy ?_ isolated ih
      have free : k.cancelled = false := steady.free
      rintro (cancelled | rfl)
      · cases free.symm.trans cancelled
      · cases free.symm.trans allowed
  | @pass k failed steady time answered punctual ih =>
      change k.elector.stage.Paced c failed (k.now + time)
      cases stage : k.elector.stage with
      | holding held next =>
          rw [stage] at ih
          exact ⟨punctual next (by simp [Elector.alarm?, stage]), ih.2⟩
      | waiting next =>
          rw [stage] at ih
          exact ih
      | reading deadline | claiming deadline record stamped | renewing held record started
        | rereading held | releasing deadline =>
          rw [stage] at answered
          exact absurd trivial answered
      | idle | stopping held reason =>
          rw [stage] at ih
          exact ih.elim

omit [DecidableEq τ] in
theorem Orderly.office_of_onDuty (orderly : k.Orderly c) {held : Held τ}
    (duty : (account c.identity k.trace).OnDuty c held k.elector.work) : k.StaysInOffice where
  leads _ := by
    have leads := duty.leading.leads
    rwa [← orderly.phase] at leads
  unstopped := by
    rw [← account_stopped c.identity, duty.leading.stopped]
    exact Bool.false_ne_true
  unlost := by
    rw [← account_lost c.identity, duty.kept]
    exact Bool.false_ne_true

omit [DecidableEq τ] in
theorem office_of_seeking (seeking : (account c.identity k.trace).Seeking none) :
    k.StaysInOffice where
  leads started := by
    rw [← account_started c.identity, seeking.started] at started
    cases started
  unstopped := by
    rw [← account_stopped c.identity, seeking.stopped]
    exact Bool.false_ne_true
  unlost := by
    rw [← account_lost c.identity, seeking.kept]
    exact Bool.false_ne_true

omit [DecidableEq τ] in
/-- While the times of the stages relate as they should, nobody leaves office. -/
theorem Orderly.staysInOffice (orderly : k.Orderly c)
    (paced : k.elector.stage.Paced c failed k.now) : k.StaysInOffice := by
  have fits := orderly.fits
  cases stage : k.elector.stage with
  | reading deadline | waiting next =>
      rw [stage] at fits
      exact office_of_seeking fits
  | claiming deadline record stamped =>
      rw [stage] at fits
      exact office_of_seeking fits.1
  | holding held next | rereading held =>
      rw [stage] at fits
      exact orderly.office_of_onDuty fits
  | renewing held record started =>
      rw [stage] at fits
      exact orderly.office_of_onDuty fits.1
  | idle | stopping held reason | releasing deadline =>
      rw [stage] at paced
      exact paced.elim

section Losing

variable {held : Held τ} {next : Nat}

/-- A leader whose timer is set begins the next renewal when it goes off. -/
theorem Steady.renews (steady : Steady c failed k) (stage : k.elector.stage = .holding held next)
    (waits : k.now ≤ next) (early : next < Elector.renewBy c held) :
    ∃ renewing : Course τ, Steady c failed renewing ∧ renewing.now = next ∧
      renewing.elector.work = k.elector.work ∧
      renewing.elector.stage = .renewing held (held.record.renewed c.lease .epoch) next := by
  obtain ⟨time, rfl⟩ := Nat.exists_eq_add_of_le waits
  have due : Steady c failed (k.pass time) := by
    refine steady.pass time (by simp [stage, Stage.Calls]) ?_
    intro due alarm
    simp only [Elector.alarm?, stage, Option.some.injEq] at alarm
    exact Nat.le_of_eq alarm
  obtain ⟨renewing, work⟩ := Elector.step_due (m := (k.pass time).moment .epoch) stage
    steady.free (Nat.le_refl _) early
  exact ⟨_, due.hear .epoch .timer trivial (.other (by simp)), rfl, work, renewing⟩

/-- A renewal may fail if the one before it did not. -/
theorem Steady.fails (steady : Steady c false k) {record : LeaseRecord} {started : Nat}
    (stage : k.elector.stage = .renewing held record started)
    (early : k.now < Elector.renewBy c held) :
    ∃ holding : Course τ, Steady c true holding ∧ holding.now = k.now ∧
      holding.elector.work = k.elector.work ∧
      holding.elector.stage = .holding held
        (min (k.now + c.retryPeriod.nanoseconds) (Elector.renewBy c held)) := by
  obtain ⟨holding, work⟩ := Elector.step_unrenewed (c := c) (m := k.moment .epoch)
    (.unavailable "unreachable") stage steady.free (by decide) early
  refine ⟨_, steady.hear .epoch (.answered (.failed (.unavailable "unreachable"))) ?_ ?_, rfl, work,
    holding⟩
  · simp [Allows, stage, Stage.Expects]
  · rw [stage]
    exact .failed

/-- A leader whose timer is set for the renew deadline loses the lease when it goes off. -/
theorem Steady.lapses (steady : Steady c failed k)
    (stage : k.elector.stage = .holding held (Elector.renewBy c held))
    (waits : k.now ≤ Elector.renewBy c held) (work : k.elector.work = .running) :
    ∃ lost : Course τ, Steady c failed lost ∧
      lost.elector.stage = .stopping held (.lost none) := by
  obtain ⟨time, due⟩ := Nat.exists_eq_add_of_le waits
  have overdue : Steady c failed (k.pass time) := by
    refine steady.pass time (by simp [stage, Stage.Calls]) ?_
    intro alarmed alarm
    simp only [Elector.alarm?, stage, Option.some.injEq] at alarm
    omega
  have stopping := Elector.step_overdue (m := (k.pass time).moment .epoch) stage steady.free
    (Nat.le_of_eq due) (Nat.le_of_eq due) work
  exact ⟨_, overdue.hear .epoch .timer trivial (.other (by simp)), stopping⟩

end Losing

/-- A participant may be elected at once. -/
theorem exists_elected [Inhabited τ] (patient : 0 < c.renewDeadline.nanoseconds) :
    ∃ (k : Course τ) (held : Held τ), Steady c false k ∧ k.now = held.stamped ∧
      k.elector.work = .running ∧
      k.elector.stage = .holding held
        (min (k.now + c.retryPeriod.nanoseconds) (Elector.renewBy c held)) := by
  have begun : Reachable c ⟨false, false⟩ (.initial c 0 : Course τ) := .initial 0
  obtain ⟨reading, steady, reads⟩ : ∃ reading : Course τ, Steady c false reading ∧
      reading.elector.stage = .reading (0 + c.renewDeadline.nanoseconds) :=
    ⟨_, .start begun .epoch rfl, Elector.attempt_stage rfl⟩
  have missing : reading.Allows (.hear (.answered (.failed (.notFound c.key)))) := by
    rw [Allows, reads]
    trivial
  have claims : (reading.hear c .epoch (.answered (.failed (.notFound c.key)))).elector.stage =
      .claiming (0 + c.renewDeadline.nanoseconds)
        (.claimed reading.elector.status.identity c.lease .epoch) reading.now := by
    simp only [hear, turn, Elector.step, Elector.onAnswer, reads]
    exact Elector.claim_stage steady.free _ _ _
  have claiming := steady.hear .epoch _ missing (.other (by simp [reads, Stage.Renews]))
  obtain ⟨holding, working⟩ := Elector.step_claimed (c := c) default
    (m := Course.moment (hear c .epoch reading _) .epoch) claims claiming.free
    (Nat.lt_add_of_pos_right patient)
  refine ⟨_, _, claiming.hear .epoch (.answered (.written default)) ?_ (.other ?_), rfl, working,
    holding⟩
  · rw [Allows, claims]
    trivial
  · rw [claims]
    exact False.elim

/-- Where the renew deadline is not longer than two retry periods, one renewal that fails costs the
lease. -/
theorem exists_lost [Inhabited τ]
    (shorter : c.retryPeriod.nanoseconds < c.renewDeadline.nanoseconds)
    (tight : c.renewDeadline.nanoseconds ≤ 2 * c.retryPeriod.nanoseconds) :
    ∃ lost : Course τ, Steady c true lost ∧ ¬ lost.StaysInOffice := by
  obtain ⟨k, held, elected, now, working, stage⟩ := exists_elected (τ := τ) (c := c)
    (Nat.zero_lt_of_lt shorter)
  have deadline : Elector.renewBy c held = k.now + c.renewDeadline.nanoseconds := by
    rw [now]
    rfl
  rw [deadline, Nat.min_eq_left (by omega)] at stage
  obtain ⟨renewing, begun, began, stillWorking, renews⟩ := elected.renews stage
    (Nat.le_add_right _ _) (by omega)
  obtain ⟨holding, failed, failedAt, worksOn, holds⟩ := begun.fails renews (by omega)
  -- the timer for the next renewal is set for the renew deadline itself
  rw [Nat.min_eq_right (by omega)] at holds
  obtain ⟨lost, ended, stopping⟩ := failed.lapses holds (by omega)
    (by rw [worksOn, stillWorking, working])
  refine ⟨lost, ended, ?_⟩
  have orderly := ended.reachable.orderly
  have fits := orderly.fits
  rw [stopping] at fits
  have started : Trace.Saw Event.starts lost.trace :=
    (account_started c.identity lost.trace).mp fits.1.started
  intro stays
  have leads := stays.leads started
  rw [ElectionStatus.IsLeader, orderly.phase, fits.1.phase] at leads
  exact absurd leads (by decide)

/-- Renewals that fail one at a time never cost a leader the lease just where the renew deadline is
longer than two retry periods. -/
theorem isolated_failures_kept [Inhabited τ] (accepted : c.validate = .ok ()) :
    (∀ failed (k : Course τ), Steady c failed k → k.StaysInOffice) ↔
      2 * c.retryPeriod.nanoseconds < c.renewDeadline.nanoseconds := by
  obtain ⟨-, shorter, -⟩ := ElectionConfig.validate_ok accepted
  constructor
  · intro stays
    rw [← Nat.not_le]
    intro tight
    obtain ⟨lost, steady, leaves⟩ := exists_lost (τ := τ) shorter tight
    exact leaves (stays true lost steady)
  · intro roomy failed k steady
    exact steady.reachable.orderly.staysInOffice (steady.paced roomy)

/-- With the usual timings a leader stays in office. -/
theorem isolated_failures_kept_usual :
    (ElectionConfig.usual "a").validate = .ok () ∧
      ∀ failed (k : Course Nat), Steady (.usual "a") failed k → k.StaysInOffice :=
  ⟨rfl, (isolated_failures_kept rfl).mpr (by decide)⟩

/-- A renew deadline of just two retry periods is accepted without a warning, and one renewal that
fails costs the lease. -/
theorem isolated_failures_lose : ∃ c : ElectionConfig, c.validate = .ok () ∧ c.warnings = [] ∧
    c.renewDeadline.nanoseconds = 2 * c.retryPeriod.nanoseconds ∧
    ∃ lost : Course Nat, Steady c true lost ∧ ¬ lost.StaysInOffice :=
  ⟨{ ElectionConfig.usual "a" with renewDeadline := .ofSeconds 4 }, rfl, by decide, by decide,
    exists_lost (by decide) (by decide)⟩

end Course

end LeaseElection
