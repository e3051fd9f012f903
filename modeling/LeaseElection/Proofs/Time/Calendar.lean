import LeaseElection.Time.Calendar

namespace LeaseElection.Calendar

theorem daysBeforeYear_succ (year : Int) :
    daysBeforeYear (year + 1) = daysBeforeYear year + if IsLeap year then 366 else 365 := by
  by_cases leap : IsLeap year
  · rw [if_pos leap]
    unfold IsLeap at leap
    unfold daysBeforeYear
    omega
  · rw [if_neg leap]
    unfold IsLeap at leap
    unfold daysBeforeYear
    omega

/-- The length of these stretches taken together. -/
def total (lengths : List Nat) : Nat := lengths.foldl (· + ·) 0

theorem total_cons (length : Nat) (lengths : List Nat) :
    total (length :: lengths) = length + total lengths := by
  rw [total, total, ← List.sum_eq_foldl, ← List.sum_eq_foldl, List.sum_cons]

theorem total_monthLengths (year : Int) :
    total (monthLengths year) = if IsLeap year then 366 else 365 := by
  unfold monthLengths total
  by_cases leap : IsLeap year <;> simp [leap]

theorem yearOfDay_spec (day : Int) :
    daysBeforeYear (yearOfDay day) ≤ day ∧ day < daysBeforeYear (yearOfDay day + 1) := by
  unfold yearOfDay
  dsimp only
  generalize guessed : day * 400 / 146097 = guess
  have before : daysBeforeYear (guess - 1) ≤ day := by
    unfold daysBeforeYear
    omega
  have after : day < daysBeforeYear (guess + 1 + 1) := by
    unfold daysBeforeYear
    omega
  split
  next early =>
    rw [Int.sub_add_cancel]
    exact ⟨before, early⟩
  next reached =>
    split
    next late => exact ⟨late, after⟩
    next within => omega

theorem daysBeforeYear_mono {early late : Int} (order : early ≤ late) :
    daysBeforeYear early ≤ daysBeforeYear late := by
  unfold daysBeforeYear
  omega

theorem yearOfDay_bounds {first last day : Int} (begun : daysBeforeYear first ≤ day)
    (unfinished : day < daysBeforeYear (last + 1)) :
    first ≤ yearOfDay day ∧ yearOfDay day ≤ last := by
  obtain ⟨lower, upper⟩ := yearOfDay_spec day
  constructor
  · refine Int.not_lt.mp fun early => ?_
    have order := daysBeforeYear_mono (show yearOfDay day + 1 ≤ first by omega)
    omega
  · refine Int.not_lt.mp fun late => ?_
    have order := daysBeforeYear_mono (show last + 1 ≤ yearOfDay day by omega)
    omega

theorem locate_spec {lengths : List Nat} {day : Nat} (within : day < total lengths) :
    (locate lengths day).1 < lengths.length ∧
      (locate lengths day).2 < lengths.getD (locate lengths day).1 0 ∧
      total (lengths.take (locate lengths day).1) + (locate lengths day).2 = day := by
  induction lengths generalizing day with
  | nil => cases within
  | cons length lengths ih =>
      rw [total_cons] at within
      by_cases first : day < length
      · simp [locate, first, total]
      · obtain ⟨index, offset, sum⟩ := ih (show day - length < total lengths by omega)
        simp only [locate, if_neg first, List.length_cons, List.getD_cons_succ,
          List.take_succ_cons, total_cons]
        exact ⟨by omega, offset, by omega⟩

theorem Date.ofNumber_spec (day : Int) :
    (Date.ofNumber day).year = yearOfDay day ∧ (Date.ofNumber day).Valid ∧
      (Date.ofNumber day).number = day := by
  obtain ⟨begun, unfinished⟩ := yearOfDay_spec day
  rw [daysBeforeYear_succ] at unfinished
  have within : (day - daysBeforeYear (yearOfDay day)).toNat <
      total (monthLengths (yearOfDay day)) := by
    rw [total_monthLengths]
    by_cases leap : IsLeap (yearOfDay day) <;>
      simp only [leap, if_true, if_false] at unfinished ⊢ <;> omega
  obtain ⟨month, offset, sum⟩ := locate_spec within
  have twelve : (monthLengths (yearOfDay day)).length = 12 := rfl
  refine ⟨rfl, ⟨Nat.le_add_left 1 _, ?_, Nat.le_add_left 1 _, offset⟩, ?_⟩
  · rw [twelve] at month
    exact month
  · rw [total] at sum
    simp only [Date.number, Date.ofNumber, Nat.add_sub_cancel]
    omega

theorem Date.Valid.day_le {d : Date} (valid : d.Valid) : d.day ≤ 31 := by
  have longest : ∀ length ∈ monthLengths d.year, length ≤ 31 := by
    unfold monthLengths
    split <;> decide
  obtain ⟨-, december, -, within⟩ := valid
  have month : d.month - 1 < (monthLengths d.year).length := by
    change d.month - 1 < 12
    omega
  rw [List.getD_eq_getElem?_getD, List.getElem?_eq_getElem month] at within
  exact Nat.le_trans within (longest _ (List.getElem_mem month))

end LeaseElection.Calendar
