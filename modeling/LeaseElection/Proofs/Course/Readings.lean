import LeaseElection.Proofs.Course.Lawful

namespace LeaseElection

/-- A version of the record that was read, and the local time at which the answer was heard. -/
structure Reading (τ : Type) where
  current : Versioned τ
  time : Nat
  deriving DecidableEq, Repr

def Event.reading? : Event τ → Option (Reading τ)
  | .told m (.answered (.found current)) => some ⟨current, m.now⟩
  | _ => none

/-- All that was read in a run, the latest first. -/
def Trace.readings (past : Trace τ) : List (Reading τ) := past.filterMap Event.reading?

theorem Trace.readings_turn (t : Turn τ) (past : Trace τ) :
    readings (t.trace past) = readings past := by
  unfold Turn.trace
  induction t.effects generalizing past with
  | nil => rfl
  | cons effect rest ih => exact ih _

namespace Reading

variable [DecidableEq τ]

/-- When a token was first read in the latest unbroken run of readings, if the latest reading is
one of this token. -/
def first? (token : τ) (readings : List (Reading τ)) : Option Nat :=
  (readings.takeWhile (·.current.token = token)).getLast?.map time

/-- The latest token that was read, and when it was first read. -/
def sighting? : List (Reading τ) → Option (Sighting τ)
  | [] => none
  | latest :: earlier =>
      (first? latest.current.token (latest :: earlier)).map (Sighting.mk latest.current.token)

theorem first?_of_same {latest : Reading τ} {token : τ} (same : latest.current.token = token)
    (earlier : List (Reading τ)) :
    first? token (latest :: earlier) = some ((first? token earlier).getD latest.time) := by
  unfold first?
  rw [List.takeWhile_cons_of_pos (by simpa using same), List.getLast?_cons, Option.map_some]
  cases (earlier.takeWhile (·.current.token = token)).getLast? <;> rfl

theorem first?_of_other {latest : Reading τ} {token : τ} (other : latest.current.token ≠ token)
    (earlier : List (Reading τ)) : first? token (latest :: earlier) = none := by
  unfold first?
  rw [List.takeWhile_cons_of_neg (by simpa using other)]
  rfl

/-- One more reading is noted as a participant notes it. -/
theorem sighting?_cons (m : Moment) (current : Versioned τ) (earlier : List (Reading τ)) :
    sighting? (⟨current, m.now⟩ :: earlier) =
      some (Elector.noted m (sighting? earlier) current) := by
  simp only [sighting?, first?_of_same, Option.map_some]
  cases earlier with
  | nil => rfl
  | cons latest earlier =>
      by_cases same : latest.current.token = current.token
      · simp [Elector.noted, same, first?_of_same]
      · simp [Elector.noted, same, first?_of_other]

end Reading

namespace Stage

theorem Fits.seeks {c : ElectionConfig} {work : WorkState} {d : Account τ} {s : Stage τ}
    (fits : s.Fits c work d) (acquiring : d.phase = .acquiring) : s.Seeks := by
  have resigned : ¬ d.phase.Leads := by
    rw [acquiring]
    decide
  cases s with
  | reading deadline | claiming deadline record stamped | waiting next => trivial
  | idle => exact absurd (fits.1.symm.trans acquiring) (by decide)
  | holding held next | rereading held => exact absurd fits.leading.leads resigned
  | renewing held record started => exact absurd fits.1.leading.leads resigned
  | stopping held reason => exact absurd (fits.1.phase.symm.trans acquiring) (by decide)
  | releasing deadline => exact absurd (fits.phase.symm.trans acquiring) (by decide)

end Stage

namespace Course

variable [DecidableEq τ] {c : ElectionConfig} {pace : Pace} {k : Course τ}

/-- A participant that seeks the lease remembers what its run has read. -/
def Remembers (k : Course τ) : Prop :=
  k.elector.stage.Seeks → k.elector.sighting = Reading.sighting? (Trace.readings k.trace)

theorem Remembers.hear (remembers : k.Remembers) (orderly : k.Orderly c) {wall : Instant}
    {signal : Signal τ} (allowed : k.Allows (.hear signal)) :
    (k.hear c wall signal).Remembers := by
  intro seeks
  have going : signal ≠ .start := by
    rintro rfl
    exact allowed
  have sought : k.elector.stage.Seeks := by
    by_cases sought : k.elector.stage.Seeks
    · exact sought
    · have passage := Elector.step_passes (m := k.moment wall) orderly.identity allowed.expected
      exact absurd seeks (passage.unseeking going sought)
  have noted : (k.hear c wall signal).elector.sighting = _ :=
    (Elector.step_frame (c := c) (m := k.moment wall) (e := k.elector) signal).1
  have readings : Trace.readings (k.hear c wall signal).trace =
      Trace.readings (.told (k.moment wall) signal :: k.trace) := Trace.readings_turn _ _
  rw [noted, readings]
  have before := remembers sought
  cases signal with
  | start => exact absurd rfl going
  | cancelled | timer | workEnded panicked => exact before
  | answered answer =>
      cases answer with
      | written token | failed error => exact before
      | found current =>
          -- a record that is found while the lease is sought is one that was to be claimed
          cases stage : k.elector.stage with
          | reading deadline =>
              have taken := Reading.sighting?_cons (k.moment wall) current (Trace.readings k.trace)
              rw [← before] at taken
              simp only [Elector.sightingAfter, stage]
              exact taken.symm
          | _ => simp [Allows, stage, Stage.Expects, Stage.Seeks] at allowed sought

theorem Reachable.remembers (reachable : Reachable c pace k) : k.Remembers := by
  induction reachable with
  | initial now => exact False.elim
  | @step k next reachable step ih =>
      cases step with
      | pass time may => exact ih
      | move wall move allowed =>
          cases move with
          | cancel => exact ih
          | restart => exact False.elim
          | hear signal => exact ih.hear reachable.orderly allowed
          | start cancelled =>
              intro seeks
              have noted : (k.after c wall (.start cancelled)).elector.sighting = _ :=
                (Elector.step_frame (c := c) (m := (k.opened cancelled).moment wall)
                  (e := k.elector) .start).1
              have idle : k.elector.stage = .idle := allowed
              have readings : Trace.readings (k.after c wall (.start cancelled)).trace = _ :=
                Trace.readings_turn _ _
              rw [noted, readings]
              simp only [Elector.sightingAfter, idle, if_true, opened]
              cases cancelled <;> rfl

end Course

end LeaseElection
