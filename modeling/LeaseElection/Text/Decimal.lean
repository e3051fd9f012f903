namespace LeaseElection.Decimal

def digit (d : Nat) : Char := Char.ofNat (48 + d)

def digit? (c : Char) : Option Nat :=
  if c.isDigit then some (c.toNat - 48) else none

/-- The decimal digits of a number, the most significant first and without leading zeros. -/
def digits (n : Nat) : List Char :=
  if n < 10 then [digit n] else digits (n / 10) ++ [digit (n % 10)]
termination_by n
decreasing_by omega

def append (n : Nat) (c : Char) : Nat := 10 * n + (c.toNat - 48)

def value (cs : List Char) : Nat := cs.foldl append 0

def text (n : Nat) : String := String.ofList (digits n)

def signedText (i : Int) : String :=
  if i < 0 then "-" ++ text i.natAbs else text i.natAbs

def padded (width n : Nat) : List Char :=
  List.replicate (width - (digits n).length) '0' ++ digits n

/-- The number that a nonempty row of digits stands for, and nothing for any other text. -/
def natural? (cs : List Char) : Option Nat :=
  if cs ≠ [] ∧ cs.all Char.isDigit then some (value cs) else none

theorem isDigit_digit : ∀ d < 10, (digit d).isDigit = true := by decide

theorem toNat_digit : ∀ d < 10, (digit d).toNat = 48 + d := by decide

theorem digits_ne_nil (n : Nat) : digits n ≠ [] := by
  rw [digits]
  split <;> simp

theorem isDigit_of_mem_digits (n : Nat) : ∀ c ∈ digits n, c.isDigit = true := by
  induction n using Nat.strongRecOn with
  | ind n ih =>
      rw [digits]
      split
      case isTrue small => simpa using isDigit_digit n small
      case isFalse large =>
        intro c mem
        rcases List.mem_append.mp mem with front | last
        · exact ih (n / 10) (by omega) c front
        · have : c = digit (n % 10) := by simpa using last
          exact this ▸ isDigit_digit (n % 10) (by omega)

theorem value_append_digit (cs : List Char) (c : Char) :
    value (cs ++ [c]) = append (value cs) c := by
  simp [value]

theorem value_digits (n : Nat) : value (digits n) = n := by
  induction n using Nat.strongRecOn with
  | ind n ih =>
      rw [digits]
      split
      case isTrue small => simp [value, append, toNat_digit n small]
      case isFalse large =>
        rw [value_append_digit, ih (n / 10) (by omega), append, toNat_digit (n % 10) (by omega)]
        omega

theorem digits_injective {m n : Nat} (same : digits m = digits n) : m = n := by
  rw [← value_digits m, ← value_digits n, same]

theorem natural?_digits (n : Nat) : natural? (digits n) = some n := by
  have all : (digits n).all Char.isDigit = true :=
    List.all_eq_true.mpr (isDigit_of_mem_digits n)
  simp only [natural?, digits_ne_nil, ne_eq, not_false_eq_true, all, and_self, if_true,
    value_digits]

end LeaseElection.Decimal
