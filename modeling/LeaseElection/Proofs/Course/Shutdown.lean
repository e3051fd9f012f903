import LeaseElection.Process.Basic
import LeaseElection.Proofs.Course.RenewDeadline
import LeaseElection.Proofs.Course.Workload
import LeaseElection.Startup.Withdrawal

/-!
# Shutting down in time

Beside a participant the local time is taken down at which the caller cancelled its run. A run that
heeds its caller hears of that at once. From then on it waits for nothing but the end of its workload
and, within the renew deadline, for the answer to the call that gives the lease up.
-/
namespace LeaseElection

def Event.workEnd? : Event τ → Option Nat
  | .told m (.workEnded _) => some m.now
  | _ => none

/-- When the workload of a run ended, if it did. -/
def Trace.workEnd (past : Trace τ) : Option Nat := past.findSome? Event.workEnd?

theorem Trace.workEnd_turn (t : Turn τ) (base : Trace τ) :
    workEnd (t.trace base) = workEnd base := by
  rw [Turn.trace_eq, ← List.map_reverse]
  induction t.effects.reverse with
  | nil => rfl
  | cons effect done ih => exact ih

theorem Trace.workEnd_told (m : Moment) (signal : Signal τ) (past : Trace τ) :
    workEnd (.told m signal :: past) = workEnd past ∨
      workEnd (.told m signal :: past) = some m.now := by
  cases signal with
  | workEnded panicked => exact .inr rfl
  | start | cancelled | answered answer | timer => exact .inl rfl

/-- A participant, and when its run was cancelled. -/
structure Overseen (τ : Type) where
  course : Course τ
  /-- When the caller cancelled the latest run, if it did. -/
  since : Nat
  deriving DecidableEq, Repr

namespace Overseen

def initial (c : ElectionConfig) (now : Nat) : Overseen τ := ⟨.initial c now, now⟩

/-- When the workload ended, or else when the run was cancelled. -/
def workEnd (o : Overseen τ) : Nat := (Trace.workEnd o.course.trace).getD o.since

section

variable [DecidableEq τ] (c : ElectionConfig)

def after (o : Overseen τ) (wall : Instant) (move : Move τ) : Overseen τ where
  course := o.course.after c wall move
  since := match move with
    | .start _ => o.course.now
    | .cancel => if o.course.cancelled then o.since else o.course.now
    | .hear _ | .restart => o.since

def pass (o : Overseen τ) (time : Nat) : Overseen τ := { o with course := o.course.pass time }

/-- Whether some time may pass: not as long as a run that heeds its caller has not heard that it is
cancelled. -/
def MayPass (pace : Pace) (o : Overseen τ) (time : Nat) : Prop :=
  o.course.MayPass c pace time ∧
    (o.course.cancelled = true → o.course.elector.stage.HeedsCancel → time = 0)

inductive Reachable (pace : Pace) : Overseen τ → Prop
  | initial (now : Nat) : Reachable pace (.initial c now)
  | move {o : Overseen τ} (reachable : Reachable pace o) (wall : Instant) (move : Move τ)
      (allowed : o.course.Allows move) : Reachable pace (o.after c wall move)
  | pass {o : Overseen τ} (reachable : Reachable pace o) (time : Nat)
      (may : o.MayPass c pace time) : Reachable pace (o.pass time)

end

variable {c : ElectionConfig} {pace : Pace} {o : Overseen τ}

theorem Reachable.course [DecidableEq τ] (reachable : Reachable c pace o) :
    o.course.Reachable c pace := by
  induction reachable with
  | initial now => exact .initial now
  | move _ wall move allowed ih => exact ih.does wall move allowed
  | pass _ time may ih => exact ih.waits time may.1

/-- What a run waits for at a stage, once it is cancelled. If it heeds its caller, it is about to hear
of that. If it gives the lease up, it does so until the renew deadline has passed since it was
cancelled, or since its workload ended. -/
def Awaits (c : ElectionConfig) (pace : Pace) (o : Overseen τ) : Stage τ → Prop
  | .idle => True
  | .stopping .. => pace.prompt = true → o.course.cancelled = true → o.since = o.course.now
  | .releasing deadline => o.course.cancelled = true ∧
      deadline ≤ max o.since o.workEnd + c.renewDeadline.nanoseconds ∧
        (pace.prompt = true → deadline ≤ o.since + c.renewDeadline.nanoseconds)
  | _ => o.course.cancelled = true → o.since = o.course.now

theorem Awaits.present {s : Stage τ} (awaits : o.Awaits c pace s) (heeds : s.HeedsCancel)
    (cancelled : o.course.cancelled = true) : o.since = o.course.now := by
  cases s with
  | idle | stopping held reason | releasing deadline => exact heeds.elim
  | _ => exact awaits cancelled

theorem awaits_of_free {s : Stage τ} (heeds : s.HeedsCancel) (free : o.course.cancelled = false) :
    o.Awaits c pace s := by
  have uncancelled : ¬ o.course.cancelled = true := by simp [free]
  cases s with
  | idle | stopping held reason | releasing deadline => exact heeds.elim
  | _ => exact fun cancelled => absurd cancelled uncancelled

theorem awaits_of_parting {wall : Instant} {held : Held τ} {reason : StopReason} {s : Stage τ}
    {calls : List (StoreCall τ)} {outcomes : List ElectionOutcome}
    (parting : Elector.Parting c (o.course.moment wall) held reason s calls outcomes)
    (cancelled : reason = .cancelled → o.course.cancelled = true)
    (present : o.course.cancelled = true → o.since = o.course.now) : o.Awaits c pace s := by
  cases parting with
  | stops => exact fun _ => present
  | departs wanted =>
      have now : o.since = o.course.now := present (cancelled rfl)
      refine ⟨cancelled rfl, ?_, fun _ => ?_⟩ <;> simp only [Course.moment] <;> omega
  | quits unwanted | loses => trivial

structure Attentive (c : ElectionConfig) (pace : Pace) (o : Overseen τ) : Prop where
  past : o.since ≤ o.course.now
  ended : ∀ time, Trace.workEnd o.course.trace = some time → time ≤ o.course.now
  awaits : o.Awaits c pace o.course.elector.stage

theorem Attentive.workEnd_le (attentive : o.Attentive c pace) : o.workEnd ≤ o.course.now := by
  unfold workEnd
  cases finished : Trace.workEnd o.course.trace with
  | none => exact attentive.past
  | some time => exact attentive.ended time finished

section

variable [DecidableEq τ] (wall : Instant) (signal : Signal τ)

/-- A participant that has reacted to a signal. -/
def hear (c : ElectionConfig) (o : Overseen τ) : Overseen τ := ⟨o.course.hear c wall signal, o.since⟩

theorem workEnd_hear : Trace.workEnd (o.hear wall signal c).course.trace =
    Trace.workEnd (.told (o.course.moment wall) signal :: o.course.trace) :=
  Trace.workEnd_turn _ _

theorem workEnd_hear_ended (panicked : Bool) :
    (o.hear wall (.workEnded panicked) c).workEnd = o.course.now := by
  rw [workEnd, workEnd_hear]
  rfl

theorem Attentive.ended_hear (attentive : o.Attentive c pace) {time : Nat}
    (finished : Trace.workEnd (o.hear wall signal c).course.trace = some time) :
    time ≤ o.course.now := by
  rw [workEnd_hear] at finished
  rcases Trace.workEnd_told (o.course.moment wall) signal o.course.trace with same | now
  · exact attentive.ended time (same.symm.trans finished)
  · cases now.symm.trans finished
    exact Nat.le_refl _

theorem Attentive.workEnd_le_hear (attentive : o.Attentive c pace) :
    o.workEnd ≤ (o.hear wall signal c).workEnd := by
  rcases Trace.workEnd_told (o.course.moment wall) signal o.course.trace with same | now
  · rw [workEnd, workEnd, workEnd_hear, same]
    exact Nat.le_refl _
  · have finished : (o.hear wall signal c).workEnd = o.course.now := by
      rw [workEnd, workEnd_hear, now]
      rfl
    exact finished ▸ attentive.workEnd_le

theorem Attentive.awaits_hear (attentive : o.Attentive c pace) {s : Stage τ}
    (awaits : o.Awaits c pace s) : (o.hear wall signal c).Awaits c pace s := by
  have later := attentive.workEnd_le_hear wall signal
  cases s with
  | releasing deadline =>
      obtain ⟨cancelled, bounded, prompt⟩ := awaits
      refine ⟨cancelled, Nat.le_trans bounded ?_, prompt⟩
      have same : (o.hear wall signal c).since = o.since := rfl
      omega
  | _ => exact awaits

variable {signal}

/-- One reaction. A run that waited for its workload was cancelled when it gives the lease up. -/
theorem Attentive.hear (attentive : o.Attentive c pace) (orderly : o.course.Orderly c)
    (cancelled : signal = .cancelled → o.course.cancelled = true)
    (expected : ∀ answer, signal = .answered answer → o.course.elector.stage.Expects answer) :
    (o.hear wall signal c).Attentive c pace := by
  refine ⟨attentive.past, fun time => attentive.ended_hear wall signal, ?_⟩
  have passage := Elector.step_passes (m := o.course.moment wall) orderly.identity expected
  change Awaits c pace (o.hear wall signal c)
    (o.course.elector.step c (o.course.moment wall) signal).elector.stage
  generalize (o.course.elector.step c (o.course.moment wall) signal).elector.stage = s' at passage ⊢
  generalize (o.course.elector.step c (o.course.moment wall) signal).calls = calls at passage
  generalize (o.course.elector.step c (o.course.moment wall) signal).outcomes = outcomes at passage
  generalize stage : o.course.elector.stage = s at passage
  cases passage with
  | stays unasked => exact stage ▸ attentive.awaits_hear wall signal attentive.awaits
  | withdraws | concludes => trivial
  | reads attempts free | takes free | creates free | rests seeks unwritten free
    | holds expected kept free | renews free | rereads free => exact awaits_of_free trivial free
  | leaves why parting =>
      have awaits := attentive.awaits
      have fits := orderly.fits
      rw [stage] at awaits fits
      cases why with
      | cancelled kept heeds noticed =>
          exact awaits_of_parting (o := o.hear wall signal c) parting
            (fun _ => noticed.elim id cancelled) (awaits.present heeds)
      | late kept heeds late heard =>
          exact awaits_of_parting (o := o.hear wall _ c) parting nofun (awaits.present heeds)
      | supplanted foreign =>
          exact awaits_of_parting (o := o.hear wall _ c) parting nofun (awaits.present trivial)
      | @stopping _ _ panicked =>
          cases parting with
          | stops => exact attentive.awaits_hear wall _ awaits
          | quits unwanted | loses => trivial
          | departs wanted =>
              have unlost : (account c.identity o.course.trace).lost = false := by
                simpa using fits.1.lost
              have cancelled : o.course.cancelled = true :=
                orderly.cancelled.symm.trans (fits.1.cancelled unlost)
              have finished := workEnd_hear_ended (c := c) (o := o) wall panicked
              refine ⟨cancelled, ?_, fun prompt => ?_⟩
              · rw [finished]
                exact Nat.add_le_add_right (Nat.le_max_right _ _) _
              · have present : o.since = o.course.now := awaits prompt cancelled
                exact Nat.le_of_eq (congrArg (· + c.renewDeadline.nanoseconds) present.symm)

end

variable [DecidableEq τ]

theorem Attentive.cancel (attentive : o.Attentive c pace) (wall : Instant) :
    (o.after c wall .cancel).Attentive c pace := by
  obtain ⟨⟨elector, now, cancelled, trace⟩, since⟩ := o
  obtain ⟨past, ended, awaits⟩ := attentive
  cases cancelled with
  | true => exact ⟨past, ended, awaits⟩
  | false =>
      refine ⟨Nat.le_refl _, ended, ?_⟩
      obtain ⟨status, sighting, lastReported, work, s⟩ := elector
      cases s with
      | idle => trivial
      | stopping held reason => exact fun _ _ => rfl
      | releasing deadline => exact absurd awaits.1 Bool.false_ne_true
      | _ => exact fun _ => rfl

omit [DecidableEq τ] in
theorem Attentive.pass (attentive : o.Attentive c pace) {time : Nat} (may : o.MayPass c pace time) :
    (o.pass time).Attentive c pace := by
  have past := attentive.past
  refine ⟨Nat.le_trans past (Nat.le_add_right _ _),
    fun time earlier => Nat.le_trans (attentive.ended time earlier) (Nat.le_add_right _ _), ?_⟩
  have awaits := attentive.awaits
  change Awaits c pace _ o.course.elector.stage
  obtain ⟨⟨-, unhurried⟩, unheard⟩ := may
  by_cases heeds : o.course.elector.stage.HeedsCancel
  · cases cancelled : o.course.cancelled with
    | false => exact awaits_of_free heeds cancelled
    | true =>
        have still : time = 0 := unheard cancelled heeds
        subst still
        exact awaits
  · cases stage : o.course.elector.stage with
    | idle => trivial
    | stopping held reason =>
        rw [stage] at awaits
        intro prompt cancelled
        have still : time = 0 := unhurried prompt held reason stage
        subst still
        exact awaits prompt cancelled
    | releasing deadline =>
        rw [stage] at awaits
        exact awaits
    | _ =>
        rw [stage] at heeds
        exact absurd trivial heeds

theorem Reachable.attentive (reachable : Reachable c pace o) : o.Attentive c pace := by
  induction reachable with
  | initial now => exact ⟨Nat.le_refl _, nofun, trivial⟩
  | @move o reachable wall move allowed ih =>
      have orderly := reachable.course.orderly
      cases move with
      | start cancelled =>
          have idle : o.course.elector.stage = .idle := allowed
          have opened : (Overseen.mk (o.course.opened cancelled) o.course.now).Attentive c pace := by
            refine ⟨Nat.le_refl _, ?_, ?_⟩
            · cases cancelled <;> exact nofun
            · change Awaits c pace _ o.course.elector.stage
              rw [idle]
              trivial
          have started : (Overseen.hear wall .start c
              ⟨o.course.opened cancelled, o.course.now⟩).Attentive c pace :=
            opened.hear wall (orderly.opened idle cancelled) (by simp) (by simp)
          exact started
      | cancel => exact ih.cancel wall
      | hear signal =>
          refine ih.hear wall orderly ?_ allowed.expected
          rintro rfl
          exact allowed
      | restart => exact ⟨ih.past, nofun, trivial⟩
  | pass reachable time may ih => exact ih.pass may

end Overseen

namespace Course

variable {τ : Type} [DecidableEq τ] {c : ElectionConfig} {pace : Pace} {k : Course τ}

end Course

namespace Elector

variable {τ : Type} {c : ElectionConfig} {m : Moment} {e : Elector τ}

variable [DecidableEq τ]

end Elector

namespace Overseen

variable {τ : Type} [DecidableEq τ] {c : ElectionConfig} {pace : Pace} {o : Overseen τ}

theorem Reachable.bounded (reachable : Reachable c pace o) (punctual : pace.punctual = true)
    (running : o.course.elector.IsRunning) (cancelled : o.course.cancelled = true)
    (finished : ¬ Trace.Works o.course.trace) :
    o.course.now ≤ max o.since o.workEnd + c.renewDeadline.nanoseconds := by
  have awaits := reachable.attentive.awaits
  have fits := reachable.course.orderly.fits
  have awake := (reachable.course.inTime punctual).awake
  cases stage : o.course.elector.stage with
  | idle => exact absurd stage running
  | stopping held reason =>
      rw [stage] at fits
      exact absurd ((reachable.course.working_iff running).mp fits.2) finished
  | releasing deadline =>
      rw [stage] at awaits
      have early : o.course.now ≤ deadline := awake deadline (by simp only [Elector.alarm?, stage])
      exact Nat.le_trans early awaits.2.1
  | _ =>
      rw [stage] at awaits
      have present : o.since = o.course.now := awaits cancelled
      omega

/-- Where workloads end promptly, a cancelled run does not outlast the renew deadline. -/
theorem Reachable.brief (reachable : Reachable c pace o) (punctual : pace.punctual = true)
    (prompt : pace.prompt = true) (running : o.course.elector.IsRunning)
    (cancelled : o.course.cancelled = true) :
    o.course.now ≤ o.since + c.renewDeadline.nanoseconds := by
  have awaits := reachable.attentive.awaits
  have awake := (reachable.course.inTime punctual).awake
  cases stage : o.course.elector.stage with
  | idle => exact absurd stage running
  | stopping held reason =>
      rw [stage] at awaits
      have present : o.since = o.course.now := awaits prompt cancelled
      omega
  | releasing deadline =>
      rw [stage] at awaits
      have early : o.course.now ≤ deadline := awake deadline (by simp only [Elector.alarm?, stage])
      exact Nat.le_trans early (awaits.2.2 prompt)
  | _ =>
      rw [stage] at awaits
      have present : o.since = o.course.now := awaits cancelled
      omega

end Overseen

/-- A task whose token is cancelled at this time, if it was not before, and that conducts a run: until
the task ends there is a run in progress. -/
def TaskCourse.Conducts (τ : Type) [DecidableEq τ] (c : ElectionConfig) (pace : Pace)
    (task : TaskCourse ElectionOutcome) (start : Nat) : Prop :=
  ∀ now, start ≤ now → (∀ o ∈ task.outcome? (some start), now < o.1) →
    ∃ o : Overseen τ, o.Reachable c pace ∧ o.course.now = now ∧ o.course.elector.IsRunning ∧
      o.course.cancelled = true ∧ o.since ≤ start

theorem TaskCourse.Conducts.ends {τ : Type} [DecidableEq τ] {c : ElectionConfig} {pace : Pace}
    {task : TaskCourse ElectionOutcome} {start : Nat} (conducts : task.Conducts τ c pace start)
    (punctual : pace.punctual = true) (prompt : pace.prompt = true) :
    ∃ o ∈ task.outcome? (some start), o.1 ≤ start + c.renewDeadline.nanoseconds + 1 := by
  have finished : ¬ ∀ o ∈ task.outcome? (some start),
      start + c.renewDeadline.nanoseconds + 1 < o.1 := by
    intro endless
    obtain ⟨o, reachable, now, running, cancelled, since⟩ := conducts _ (by omega) endless
    have brief := reachable.brief punctual prompt running cancelled
    omega
  cases outcome : task.outcome? (some start) with
  | none => exact absurd (by simp [outcome]) finished
  | some o => exact ⟨o, rfl, Nat.le_of_not_lt fun late => finished (by simpa [outcome] using late)⟩

namespace Startup

end Startup

namespace Overseen

variable {τ : Type} [DecidableEq τ] {c : ElectionConfig} {pace : Pace}

end Overseen

end LeaseElection
