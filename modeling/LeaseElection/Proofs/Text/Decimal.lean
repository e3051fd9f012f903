import LeaseElection.Text.Decimal

namespace LeaseElection.Text

/-- A text that does not go on with a character of this kind. -/
def Ends (kind : α → Bool) (rest : List α) : Prop := ∀ a ∈ rest.head?, kind a = false

variable {kind : α → Bool} {rest : List α}

theorem Ends.cons {a : α} (other : kind a = false) (rest : List α) : Ends kind (a :: rest) := by
  intro b first
  cases first
  exact other

theorem Ends.head_eq_false (ends : Ends kind rest) : rest.head?.any kind = false := by
  cases first : rest.head? with
  | none => rfl
  | some a => exact ends a first

theorem Ends.takeWhile (ends : Ends kind rest) {row : List α} (all : ∀ a ∈ row, kind a = true) :
    (row ++ rest).takeWhile kind = row := by
  rw [List.takeWhile_append_of_pos all]
  cases rest with
  | nil => simp
  | cons a rest => simp [ends a rfl]

end LeaseElection.Text

namespace LeaseElection.Decimal

theorem isDigit_of_mem_padded {width n : Nat} : ∀ c ∈ padded width n, c.isDigit = true := by
  intro c among
  rcases List.mem_append.mp among with zero | digit
  · rw [List.eq_of_mem_replicate zero]
    rfl
  · exact isDigit_of_mem_digits n c digit

theorem padded_ne_nil (width n : Nat) : padded width n ≠ [] := by
  simp [padded, digits_ne_nil]

theorem value_padded (width n : Nat) : value (padded width n) = n := by
  have zeros (count : Nat) : (List.replicate count '0').foldl append 0 = 0 := by
    induction count with
    | zero => rfl
    | succ count ih => simpa [List.replicate_succ, append] using ih
  have digits := value_digits n
  simpa only [padded, value, List.foldl_append, zeros] using digits

theorem length_digits_le (width n : Nat) (positive : 0 < width) (small : n < Nat.pow 10 width) :
    (digits n).length ≤ width := by
  induction width generalizing n with
  | zero => omega
  | succ width ih =>
      rw [digits]
      split
      next single => simp
      next more =>
        have scale : Nat.pow 10 (width + 1) = Nat.pow 10 width * 10 := rfl
        have wide : 0 < width := by
          rcases Nat.eq_zero_or_pos width with rfl | positive
          · have ten : Nat.pow 10 (0 + 1) = 10 := rfl
            omega
          · exact positive
        have front := ih (n / 10) wide (by omega)
        simpa using front

theorem length_padded (width n : Nat) (positive : 0 < width) (small : n < Nat.pow 10 width) :
    (padded width n).length = width := by
  have fits := length_digits_le width n positive small
  rw [padded, List.length_append, List.length_replicate]
  omega

theorem le_foldl_append (cs : List Char) (n : Nat) : n ≤ cs.foldl append n := by
  induction cs generalizing n with
  | nil => exact Nat.le_refl n
  | cons c cs ih =>
      have more := ih (append n c)
      have first : n ≤ append n c := by
        unfold append
        omega
      exact Nat.le_trans first more

/-- Only the number zero is written with a zero in front. -/
theorem eq_zero_of_digits {n : Nat} {more : List Char} (leading : digits n = '0' :: more) :
    n = 0 ∧ more = [] := by
  induction n using Nat.strongRecOn generalizing more with
  | ind n ih =>
      rw [digits] at leading
      split at leading
      next single =>
        obtain ⟨zero, rfl⟩ := List.cons.inj leading
        have toNat := toNat_digit n single
        rw [zero] at toNat
        exact ⟨by simpa using toNat, rfl⟩
      next several =>
        obtain ⟨c, front, same⟩ := List.exists_cons_of_ne_nil (digits_ne_nil (n / 10))
        rw [same, List.cons_append] at leading
        obtain ⟨rfl, -⟩ := List.cons.inj leading
        have zero := (ih (n / 10) (by omega) same).1
        omega

end LeaseElection.Decimal
