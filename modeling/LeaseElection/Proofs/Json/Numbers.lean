import LeaseElection.Proofs.Json.Spelling
import LeaseElection.Proofs.Text.Decimal

namespace LeaseElection.Json.Reader

open LeaseElection.Text (Ends Glyph)

variable {rest : List Glyph}

/-- Text that does not go on with what could be part of a number. -/
def EndsNumber (rest : List Glyph) : Prop := ∀ g ∈ rest.head?,
  isDigit g = false ∧ g ≠ .char '.' ∧ g ≠ .char 'e' ∧ g ≠ .char 'E'

theorem EndsNumber.cons {g : Glyph} (other : isDigit g = false ∧ g ≠ .char '.' ∧ g ≠ .char 'e' ∧
    g ≠ .char 'E') (rest : List Glyph) : EndsNumber (g :: rest) := by
  intro h first
  cases first
  exact other

theorem EndsNumber.endsDigits (ends : EndsNumber rest) : Ends isDigit rest :=
  fun g next => (ends g next).1

theorem reads_digits {cs : List Char} (digits : ∀ c ∈ cs, c.isDigit = true)
    (ends : Ends isDigit rest) : Reads Reader.digits cs rest cs := by
  intro place
  obtain ⟨behind, skipped⟩ := skip_append cs rest place
  have taken : (cs.map Glyph.char ++ rest).takeWhile isDigit = cs.map .char :=
    ends.takeWhile (by simpa [isDigit] using digits)
  refine ⟨behind, ?_⟩
  rw [Reader.digits]
  simp only [taken, List.length_map, skipped]
  simp [Glyph.char?, Function.comp_def]

theorem endsDigits_exponentText (n : DecimalNumber) (ends : EndsNumber rest) :
    Ends isDigit (n.exponentText.map .char ++ rest) := by
  unfold DecimalNumber.exponentText
  cases n.exponent with
  | none => exact ends.endsDigits
  | some e =>
      obtain ⟨capital, sign, digits⟩ := e
      cases capital with
      | false => exact .cons rfl _
      | true => exact .cons rfl _

theorem endsDigits_fraction (n : DecimalNumber) (ends : EndsNumber rest) :
    Ends isDigit ((n.fractionText ++ n.exponentText).map .char ++ rest) := by
  unfold DecimalNumber.fractionText
  cases n.places with
  | none => exact endsDigits_exponentText n ends
  | some places => exact .cons (by decide) _

theorem reads_skipExponent (e : Exponent) (ends : Ends isDigit rest) :
    Reads skipExponent e.text rest () := by
  unfold skipExponent Exponent.text
  refine .advance ?_
  extract_lets afterSign
  obtain ⟨d, more, row, digit⟩ := e.digits.exists_digit
  have finish : Reads (afterSign ()) e.digits.val rest () := by
    have digits := reads_digits e.digits.property.2 ends
    rw [row] at digits ⊢
    refine .peek ?_
    have next : (some (Glyph.char d)).any isDigit = true := digit
    rw [if_pos next]
    exact .last digits .pure
  cases e.sign with
  | plus => exact .peek (.advance finish)
  | minus => exact .peek (.advance finish)
  | none =>
      rw [row] at finish ⊢
      refine .peek ?_
      split
      next same =>
        cases same
        exact absurd digit (by decide)
      next same =>
        cases same
        exact absurd digit (by decide)
      · exact finish

theorem reads_exponentPart (n : DecimalNumber) (ends : EndsNumber rest)
    {f : Option Glyph → Reader Unit} (small : f (some (.char 'e')) = skipExponent)
    (capital : f (some (.char 'E')) = skipExponent) (other : f rest.head? = pure ()) :
    Reads (peek >>= f) n.exponentText rest () := by
  unfold DecimalNumber.exponentText
  cases n.exponent with
  | none =>
      refine .peekRest ?_
      rw [other]
      exact .pure
  | some e =>
      have exponent : Reads skipExponent e.text rest () := reads_skipExponent e ends.endsDigits
      obtain ⟨isCapital, sign, digits⟩ := e
      cases isCapital with
      | false => exact .peek (small ▸ exponent)
      | true => exact .peek (capital ▸ exponent)

theorem reads_skipFraction (n : DecimalNumber) (ends : EndsNumber rest) :
    Reads skipFraction (n.fractionText ++ n.exponentText) rest () := by
  unfold skipFraction
  unfold DecimalNumber.fractionText
  cases n.places with
  | some places =>
      refine .peek (.advance ?_)
      refine .bind (reads_digits places.property.2 (endsDigits_exponentText n ends)) ?_
      have some : places.val.isEmpty = false := by
        rw [List.isEmpty_eq_false_iff]
        exact places.property.1
      dsimp only
      rw [some, if_neg (by decide)]
      refine reads_exponentPart n ends rfl rfl ?_
      split
      next same => exact absurd rfl (ends _ same).2.2.1
      next same => exact absurd rfl (ends _ same).2.2.2
      · rfl
  | none =>
      rw [Option.elim, List.nil_append]
      refine reads_exponentPart n ends rfl rfl ?_
      split
      next same => exact absurd rfl (ends _ same).2.1
      next same => exact absurd rfl (ends _ same).2.2.1
      next same => exact absurd rfl (ends _ same).2.2.2
      · rfl

theorem reads_skipNumber (n : DecimalNumber) (ends : EndsNumber rest) :
    Reads skipNumber n.magnitude rest () := by
  have fraction := reads_skipFraction n ends
  have separate := endsDigits_fraction n ends
  obtain ⟨d, more, row, digit⟩ := n.whole.exists_digit
  have digits := reads_digits n.whole.property.2 separate
  unfold skipNumber DecimalNumber.magnitude
  rw [row] at digits ⊢
  rw [List.cons_append]
  refine .peek ?_
  split
  next same =>
    cases same
    obtain rfl := n.leading more row
    rw [List.nil_append]
    refine .advance (.peekAhead ?_)
    rw [separate.head_eq_false, if_neg (by decide)]
    exact fraction
  next same =>
    cases same
    rw [if_pos (show isDigit (.char d) = true from digit)]
    exact .bind (.last digits .pure) fraction
  next none => cases none

variable {before : List Glyph}

def Number.IsFloat : Number → Prop
  | .float _ => True
  | _ => False

theorem ensures_float (negative : Bool) (significand : Nat) (exponent : Int) :
    Ensures (float negative significand exponent) before fun x _ => x.IsFloat := by
  unfold float
  split
  · exact .pure trivial
  · exact .of_refuses (.fail _)

theorem ensures_exponent (negative : Bool) (significand : Nat) (start : Int) :
    Ensures (exponent negative significand start) before fun x _ => x.IsFloat := by
  unfold exponent
  refine .bindAny fun _ _ => .bindAny fun _ _ => ?_
  extract_lets afterSign
  have afterSign_float (down : Bool) (before : List Glyph) :
      Ensures (afterSign down) before fun x _ => x.IsFloat := by
    refine .bindAny fun _ _ => ?_
    split
    · exact .of_refuses (.fail _)
    · split
      · refine .bindAny fun _ _ => .bindAny fun _ _ => .bindAny fun _ _ => ?_
        split
        · exact ensures_float _ _ _
        · split
          · exact .of_refuses (.fail _)
          · exact .bindAny fun _ _ => .pure trivial
      · exact .of_refuses (.failAhead _)
    · exact .of_refuses (.failAhead _)
  split
  · exact .bindAny fun _ _ => .bindAny fun _ _ => afterSign_float _ _
  · exact .bindAny fun _ _ => .bindAny fun _ _ => afterSign_float _ _
  · exact .bindAny fun _ _ => afterSign_float _ _

theorem ensures_decimalPlaces (negative : Bool) (significand : Nat) (start : Int) :
    Ensures (decimalPlaces negative significand start) before fun x _ => x.IsFloat := by
  unfold decimalPlaces
  refine .bindAny fun _ _ => .bindAny fun places left => ?_
  extract_lets afterPlaces
  have afterPlaces_float (before : List Glyph) :
      Ensures (afterPlaces ()) before fun x _ => x.IsFloat := by
    refine .bindAny fun _ _ => ?_
    split
    · exact ensures_exponent _ _ _
    · exact ensures_exponent _ _ _
    · exact ensures_float _ _ _
  split
  · refine .bindAny fun _ _ => ?_
    split
    · exact .bindRefuses (.failAhead _)
    · exact .bindRefuses (.fail _)
  · exact afterPlaces_float _

/-- A number that is read as an integer is read to its end. -/
theorem ensures_number (n : DecimalNumber) (negative : Bool) (ends : EndsNumber rest) :
    Ensures (number negative) (n.magnitude.map .char ++ rest)
      fun x left => x.IsFloat ∨ left = rest := by
  have separate := endsDigits_fraction n ends
  obtain ⟨d, more, row, digit⟩ := n.whole.exists_digit
  unfold number
  refine .peek ?_
  extract_lets afterFirst
  have finish {cs : List Char} (digits : ∀ c ∈ cs, c.isDigit = true) :
      Ensures (afterFirst ())
        (cs.map .char ++ ((n.fractionText ++ n.exponentText).map .char ++ rest))
        fun x left => x.IsFloat ∨ left = rest := by
    refine .bindReads (reads_digits digits separate) (.peek ?_)
    rcases n.fraction_cases with none | ⟨c, tail, text, rfl | rfl | rfl⟩
    · rw [none, List.map_nil, List.nil_append]
      split
      next same => exact absurd rfl (ends _ same).2.1
      next same => exact absurd rfl (ends _ same).2.2.1
      next same => exact absurd rfl (ends _ same).2.2.2
      · split
        · exact (ensures_float _ _ _).mono fun _ _ float => .inl float
        · split
          · exact .pure (.inr rfl)
          · split
            · exact (ensures_float _ _ _).mono fun _ _ float => .inl float
            · exact .pure (.inr rfl)
    · rw [text]
      exact (ensures_decimalPlaces _ _ _).mono fun _ _ float => .inl float
    · rw [text]
      exact (ensures_exponent _ _ _).mono fun _ _ float => .inl float
    · rw [text]
      exact (ensures_exponent _ _ _).mono fun _ _ float => .inl float
  have digits := n.whole.property.2
  rw [DecimalNumber.magnitude, List.map_append, List.append_assoc]
  rw [row] at digits ⊢
  rw [List.map_cons, List.cons_append]
  dsimp only [List.head?_cons]
  split
  next none => cases none
  next same =>
    cases same
    refine .advance (.peek ?_)
    split
    · exact .bindRefuses (.failAhead _)
    · exact finish fun c among => digits c (List.mem_cons_of_mem _ among)
  next same =>
    cases same
    split
    · exact .bindRefuses (.failAhead _)
    · have whole := finish digits
      exact whole
  next same => cases same

theorem accumulate_eq {n : Nat} {cs : List Char} (word : cs.foldl Decimal.append n < UInt64.size) :
    accumulate n cs = (cs.foldl Decimal.append n, 0) := by
  induction cs generalizing n with
  | nil => rfl
  | cons c cs ih =>
      have first := Decimal.le_foldl_append cs (Decimal.append n c)
      rw [List.foldl_cons] at word
      rw [accumulate, if_neg (by omega), ih word, List.foldl_cons]

/-- What digits are read as behind a minus, and without one. -/
def Number.ofDigits (negative : Bool) (n : Nat) : Number :=
  if negative then .negative (-n) else .natural n

theorem reads_number (negative : Bool) {n : Nat} (word : n < UInt64.size)
    (fits : negative = true → 0 < n ∧ n ≤ 9223372036854775808) (ends : EndsNumber rest) :
    Reads (number negative) (Decimal.digits n) rest (.ofDigits negative n) := by
  have digits := Decimal.isDigit_of_mem_digits n
  have value := Decimal.value_digits n
  obtain ⟨c, more, same⟩ := List.exists_cons_of_ne_nil (Decimal.digits_ne_nil n)
  rw [same] at digits value ⊢
  unfold number
  apply Reads.peek
  extract_lets afterFirst
  have finish {cs : List Char} (digits : ∀ c ∈ cs, c.isDigit = true)
      (value : Decimal.value cs = n) : Reads (afterFirst ()) cs rest (.ofDigits negative n) := by
    refine Reads.last (reads_digits digits ends.endsDigits) ?_
    rw [Decimal.value] at value
    rw [accumulate_eq (by rw [value]; exact word), value]
    apply Reads.peekRest
    split
    next same => exact absurd rfl (ends _ same).2.1
    next same => exact absurd rfl (ends _ same).2.2.1
    next same => exact absurd rfl (ends _ same).2.2.2
    next =>
      cases negative with
      | false => exact .pure
      | true =>
          obtain ⟨positive, small⟩ := fits rfl
          rw [if_neg (by decide), if_neg (by decide), if_neg (by omega)]
          exact .pure
  split
  next none => cases none
  next zero =>
    cases zero
    obtain ⟨rfl, rfl⟩ := Decimal.eq_zero_of_digits same
    apply Reads.advance
    apply Reads.peekRest
    rw [ends.endsDigits.head_eq_false]
    exact finish (by simp) rfl
  next same =>
    cases same
    rw [if_neg (by simp [digits])]
    exact finish digits value
  next stray => cases stray

theorem isDigit_not_space {c : Char} (digit : c.isDigit = true) : isSpace (.char c) = false := by
  simp only [isSpace, Bool.or_eq_false_iff, decide_eq_false_iff_not]
  refine ⟨⟨⟨?_, ?_⟩, ?_⟩, ?_⟩ <;> (rintro rfl; exact absurd digit (by decide))

variable {low high : Int}

theorem reads_integer {i : Int} (expected : String) (range : low ≤ i ∧ i ≤ high)
    (word : -9223372036854775808 ≤ i ∧ i < UInt64.size) (ends : EndsNumber rest) :
    Reads (integer low high expected) (Value.integer i).print rest i := by
  unfold integer
  extract_lets check accept
  apply Reads.settle
  by_cases negative : i < 0
  · have size : -(i.natAbs : Int) = i := by omega
    have small : i.natAbs ≤ 9223372036854775808 := by omega
    have number : Reads (Reader.number true) _ rest _ :=
      reads_number true (Nat.lt_of_le_of_lt small (by decide)) (fun _ => ⟨by omega, small⟩) ends
    have accepted : Reads (accept (.negative (-i.natAbs))) [] rest i := by
      simp only [accept, check, size, if_pos range]
      exact .pure
    rw [Value.print, if_pos negative]
    exact .token (by decide) (.advance (.last number accepted))
  · have size : (i.natAbs : Int) = i := by omega
    have number : Reads (Reader.number false) (Decimal.digits i.natAbs) rest _ :=
      reads_number false (by omega) nofun ends
    have accepted : Reads (accept (.natural i.natAbs)) [] rest i := by
      simp only [accept, check, size, if_pos range]
      exact .pure
    have digits := Decimal.isDigit_of_mem_digits i.natAbs
    obtain ⟨c, more, same⟩ := List.exists_cons_of_ne_nil (Decimal.digits_ne_nil i.natAbs)
    have digit := digits c (same ▸ List.mem_cons_self)
    rw [Value.print, if_neg negative, List.nil_append]
    rw [same] at number ⊢
    apply Reads.token (isDigit_not_space digit)
    split
    next none => cases none
    next minus =>
      cases minus
      exact absurd digit (by decide)
    next first =>
      cases first
      rw [show isDigit (.char c) = true from digit]
      exact Reads.last number accepted

theorem reads_natural {n bits : Nat} (expected : String) (word : n < UInt64.size)
    (fits : n < Nat.pow 2 bits) (ends : EndsNumber rest) :
    Reads (natural bits expected) (Decimal.digits n) rest n := by
  have power : Int.pow 2 bits = (Nat.pow 2 bits : Nat) := (Int.natCast_pow 2 bits).symm
  have read : Reads (integer 0 (Int.pow 2 bits - 1) expected) (Value.integer n).print rest n :=
    reads_integer expected (by omega) (by omega) ends
  rw [Value.print, if_neg (by omega), List.nil_append, Int.natAbs_natCast] at read
  unfold natural
  exact Reads.last read .pure

end LeaseElection.Json.Reader
