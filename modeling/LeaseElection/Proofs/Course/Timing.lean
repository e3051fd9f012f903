import LeaseElection.Proofs.Course.Lawful
import LeaseElection.Proofs.Course.Rise

namespace LeaseElection

/-- How the times that a stage holds relate to the local time. -/
def Stage.Timely (c : ElectionConfig) (now : Nat) : Stage τ → Prop
  | .idle | .waiting _ | .releasing _ => True
  | .reading deadline => deadline ≤ now + c.renewDeadline.nanoseconds
  | .claiming deadline _ stamped =>
      stamped ≤ now ∧ deadline ≤ stamped + c.renewDeadline.nanoseconds
  | .holding held next => held.stamped ≤ now ∧ next ≤ Elector.renewBy c held
  | .renewing held _ started => held.stamped ≤ started ∧ started ≤ now
  | .rereading held | .stopping held _ => held.stamped ≤ now

theorem Stage.Timely.later {c : ElectionConfig} {now : Nat} {s : Stage τ}
    (timely : s.Timely c now) (time : Nat) : s.Timely c (now + time) := by
  cases s with
  | idle | waiting next | releasing deadline => trivial
  | reading deadline | rereading held | stopping held reason =>
      simp only [Timely] at timely ⊢
      omega
  | claiming deadline record stamped | holding held next | renewing held record started =>
      simp only [Timely] at timely ⊢
      omega

/-- The timer has not been missed, and where workloads end promptly neither has a renew deadline
while the end of one is awaited. -/
structure Elector.InTime (c : ElectionConfig) (pace : Pace) (now : Nat) (e : Elector τ) :
    Prop where
  timely : e.stage.Timely c now
  awake : ∀ due, e.alarm? c = some due → now ≤ due
  brief : pace.prompt = true → ∀ held reason, e.stage = .stopping held reason →
    now ≤ renewBy c held

namespace Elector

variable {τ : Type} {c : ElectionConfig} {pace : Pace} {m : Moment} {now : Nat}
  {signal : Signal τ} {e after : Elector τ} {held : Held τ} {identity : String}

theorem Keeps.stamped_le {s : Stage τ} (kept : Keeps identity s signal held)
    (timely : s.Timely c now) : held.stamped ≤ now := by
  cases kept with
  | claimed | holding => exact timely.1
  | renewed => exact timely.2
  | unrenewed unwritten => exact Nat.le_trans timely.1 timely.2
  | refreshed own => exact timely
  | unrefreshed | stopping => exact timely

/-- A claim that is kept is one within its renew deadline. -/
theorem Keeps.inTime (kept : Keeps identity e.stage signal held) (inTime : e.InTime c pace now)
    (attended : ∀ held reason, e.stage = .stopping held reason → pace.prompt = true) :
    now ≤ renewBy c held := by
  obtain ⟨timely, awake, brief⟩ := inTime
  cases stage : e.stage with
  | claiming deadline record stamped =>
      rw [stage] at kept timely
      have early : now ≤ deadline := awake deadline (by simp [alarm?, stage])
      cases kept with
      | claimed => exact Nat.le_trans early timely.2
  | holding held next =>
      rw [stage] at kept timely
      have early : now ≤ next := awake next (by simp [alarm?, stage])
      cases kept with
      | holding => exact Nat.le_trans early timely.2
  | renewing held record started =>
      rw [stage] at kept timely
      have early : now ≤ renewBy c held := awake _ (by simp [alarm?, stage])
      cases kept with
      | renewed => exact Nat.le_trans early (Nat.add_le_add_right timely.1 _)
      | unrenewed => exact early
  | rereading held =>
      rw [stage] at kept timely
      have early : now ≤ renewBy c held := awake _ (by simp [alarm?, stage])
      cases kept with
      | refreshed own => exact early
      | unrefreshed => exact early
  | stopping held reason =>
      rw [stage] at kept
      cases kept with
      | stopping => exact brief (attended _ _ stage) _ _ stage
  | idle | reading deadline | waiting next | releasing deadline =>
      rw [stage] at kept
      cases kept

theorem Passage.timely {s s' : Stage τ} {calls : List (StoreCall τ)}
    {outcomes : List ElectionOutcome} (passage : Passage c m after s signal s' calls outcomes)
    (timely : s.Timely c m.now) : s'.Timely c m.now := by
  cases passage with
  | stays unasked => exact timely
  | withdraws seeks unwritten | rests seeks unwritten free | concludes heard => trivial
  | reads attempts free => exact Nat.le_refl _
  | takes free claimable | creates free missing => exact ⟨Nat.le_refl _, timely⟩
  | holds expected kept free early => exact ⟨kept.stamped_le timely, Nat.min_le_right _ _⟩
  | renews free early => exact ⟨timely.1, Nat.le_refl _⟩
  | rereads free conflict => exact Nat.le_trans timely.1 timely.2
  | leaves why parting =>
      cases parting with
      | stops => exact why.kept.stamped_le timely
      | departs wanted | quits unwanted | loses => trivial

theorem step_inTime [DecidableEq τ] (inTime : e.InTime c pace m.now)
    (identity : e.status.identity = c.identity)
    (expected : ∀ answer, signal = .answered answer → e.stage.Expects answer) :
    (e.step c m signal).elector.InTime c pace m.now := by
  have passage := step_passes (m := m) identity expected
  refine ⟨passage.timely inTime.timely, ?_, ?_⟩ <;>
    generalize (e.step c m signal).calls = calls at passage <;>
    generalize (e.step c m signal).outcomes = outcomes at passage
  · intro due alarm
    have awake := inTime.awake
    unfold alarm? at alarm awake
    generalize e.stage = s at passage awake
    generalize (e.step c m signal).elector.stage = s' at passage alarm
    cases passage with
    | stays unasked => exact awake due alarm
    | withdraws seeks unwritten | concludes heard => cases alarm
    | reads attempts free | rests seeks unwritten free =>
        cases alarm
        exact Nat.le_add_right _ _
    | takes free claimable | creates free missing =>
        cases alarm
        exact awake _ rfl
    | holds expected kept free early =>
        cases alarm
        exact Nat.le_min.mpr ⟨Nat.le_add_right _ _, Nat.le_of_lt early⟩
    | renews free early =>
        cases alarm
        exact Nat.le_of_lt early
    | rereads free conflict =>
        -- a re-read keeps the deadline of the claim
        cases alarm
        exact awake _ rfl
    | leaves why parting =>
        cases parting with
        | stops | quits unwanted | loses => cases alarm
        | departs wanted =>
            cases alarm
            exact Nat.le_add_right _ _
  · intro prompt held reason stopping
    rw [stopping] at passage
    generalize before : e.stage = s at passage
    cases passage with
    | stays unasked => exact inTime.brief prompt held reason before
    | leaves why parting =>
        cases parting with
        | stops => exact Keeps.inTime (before ▸ why.kept) inTime fun _ _ _ => prompt

end Elector

namespace Course

variable {τ : Type} {c : ElectionConfig} {pace : Pace} {k : Course τ}

theorem idle_inTime {e : Elector τ} {now : Nat} (idle : e.stage = .idle) : e.InTime c pace now := by
  refine ⟨?_, ?_, ?_⟩
  · simp [idle, Stage.Timely]
  · simp [Elector.alarm?, idle]
  · simp [idle]

variable [DecidableEq τ]

theorem Reachable.inTime (reachable : Reachable c pace k) (punctual : pace.punctual = true) :
    k.elector.InTime c pace k.now := by
  induction reachable with
  | initial now => exact idle_inTime rfl
  | @step k next reachable step ih =>
      have identity : k.elector.status.identity = c.identity := reachable.orderly.identity
      cases step with
      | move wall move allowed =>
          cases move with
          | start cancelled =>
              exact Elector.step_inTime (m := (k.opened cancelled).moment wall) ih identity
                (by simp)
          | cancel => exact ih
          | hear signal =>
              exact Elector.step_inTime (m := k.moment wall) ih identity allowed.expected
          | restart => exact idle_inTime rfl
      | pass time may =>
          refine ⟨ih.timely.later time, may.1 punctual, ?_⟩
          intro prompt held reason stopping
          have still : time = 0 := may.2 prompt held reason stopping
          subst still
          exact ih.brief prompt held reason stopping

end Course

end LeaseElection
