import LeaseElection.Proofs.Text.Decimal
import LeaseElection.Proofs.Time.Calendar
import LeaseElection.Time.Rfc3339

namespace LeaseElection.Rfc3339

open LeaseElection.Text (Ends isBlank trimStart)

theorem isBlank_of_digit {c : Char} (digit : c.isDigit = true) : isBlank c = false := by
  have low : 48 ≤ c.toNat ∧ c.toNat ≤ 57 := by
    simp only [Char.isDigit, Bool.and_eq_true, decide_eq_true_eq] at digit
    exact digit
  simp only [isBlank, Bool.or_eq_false_iff, Bool.and_eq_false_iff, decide_eq_false_iff_not,
    beq_eq_false_iff_ne]
  omega

theorem trimStart_cons {c : Char} (solid : isBlank c = false) (rest : List Char) :
    trimStart (c :: rest) = c :: rest := by
  simp [trimStart, solid]

theorem trimStart_digits {cs : List Char} (digits : ∀ c ∈ cs, c.isDigit = true) (nonempty : cs ≠ [])
    (rest : List Char) : trimStart (cs ++ rest) = cs ++ rest := by
  obtain ⟨c, more, rfl⟩ := List.exists_cons_of_ne_nil nonempty
  exact trimStart_cons (isBlank_of_digit (digits c List.mem_cons_self)) (more ++ rest)

theorem number_append {width : Nat} {cs rest : List Char} (digits : ∀ c ∈ cs, c.isDigit = true)
    (nonempty : cs ≠ []) (fits : cs.length ≤ width) (ends : Ends Char.isDigit rest)
    (small : Decimal.value cs < 9223372036854775808) :
    number width (cs ++ rest) = .ok (Decimal.value cs, rest) := by
  have taken : ((cs ++ rest).take width).takeWhile Char.isDigit = cs := by
    rw [List.take_append, List.take_of_length_le fits]
    refine Ends.takeWhile ?_ digits
    intro c first
    rw [List.head?_take] at first
    split at first
    · cases first
    · exact ends c first
  unfold number
  simp only [taken]
  rw [if_neg (by simpa using nonempty), if_neg (by omega), List.drop_left]

theorem number_padded {width limit n : Nat} {rest : List Char}
    (fits : (Decimal.padded width n).length ≤ limit) (ends : Ends Char.isDigit rest)
    (small : n < 9223372036854775808) :
    number limit (Decimal.padded width n ++ rest) = .ok (n, rest) := by
  have read := number_append (fun c => Decimal.isDigit_of_mem_padded c)
    (Decimal.padded_ne_nil width n) fits ends (by rwa [Decimal.value_padded])
  rwa [Decimal.value_padded] at read

theorem field_padded {low high n : Nat} {rest : List Char} (bounds : low ≤ n ∧ n ≤ high)
    (two : high < 100) (ends : Ends Char.isDigit rest) :
    field 2 low high (Decimal.padded 2 n ++ rest) = .ok (n, rest) := by
  have width := Decimal.length_padded 2 n (by decide) (show n < 100 by omega)
  unfold field
  rw [trimStart_digits (fun c => Decimal.isDigit_of_mem_padded c) (Decimal.padded_ne_nil 2 n),
    number_padded (by omega) ends (by omega)]
  exact if_pos bounds

theorem yearText_cases (y : Int) :
    (0 ≤ y ∧ y ≤ 9999 ∧ yearText y = Decimal.padded 4 y.toNat) ∨
      (y < 0 ∧ yearText y = '-' :: Decimal.padded 4 y.natAbs) ∨
      (0 ≤ y ∧ yearText y = '+' :: Decimal.padded 4 y.natAbs) := by
  unfold yearText
  split
  next plain => exact .inl ⟨plain.1, plain.2, rfl⟩
  next extended =>
    by_cases negative : y < 0
    · exact .inr (.inl ⟨negative, by rw [if_pos negative]⟩)
    · exact .inr (.inr ⟨by omega, by rw [if_neg negative]⟩)

theorem year_yearText {y : Int} (lower : -2147483648 ≤ y) (upper : y < 2147483648)
    {rest : List Char} (ends : Ends Char.isDigit rest) :
    year (yearText y ++ rest) = .ok (y, rest) := by
  have digit (n : Nat) : ∀ c ∈ Decimal.padded 4 n, c.isDigit = true :=
    fun c => Decimal.isDigit_of_mem_padded c
  have range : -2147483648 ≤ y ∧ y < 2147483648 := ⟨lower, upper⟩
  have signed : number (Decimal.padded 4 y.natAbs ++ rest).length
      (Decimal.padded 4 y.natAbs ++ rest) = .ok (y.natAbs, rest) :=
    number_padded (by simp) ends (by omega)
  rcases yearText_cases y with ⟨natural, small, text⟩ | ⟨negative, text⟩ | ⟨natural, text⟩
  · have width := Decimal.length_padded 4 y.toNat (by decide) (show y.toNat < 10000 by omega)
    have read : number 4 (Decimal.padded 4 y.toNat ++ rest) = .ok (y.toNat, rest) :=
      number_padded (by omega) ends (by omega)
    have solid := trimStart_digits (digit y.toNat) (Decimal.padded_ne_nil 4 _) rest
    have unsigned {sign : Char} {more : List Char} (signed : sign.isDigit = false) :
        Decimal.padded 4 y.toNat ++ rest ≠ sign :: more := by
      intro same
      obtain ⟨c, digits, front⟩ := List.exists_cons_of_ne_nil (Decimal.padded_ne_nil 4 y.toNat)
      rw [front, List.cons_append] at same
      have first := digit y.toNat c (by simp [front])
      rw [(List.cons.inj same).1, signed] at first
      cases first
    rw [text, year, solid]
    dsimp only
    split
    next same => exact absurd same (unsigned (by decide))
    next same => exact absurd same (unsigned (by decide))
    · simp only [read, Except.map, bind, Except.bind, Int.toNat_of_nonneg natural, range, and_self,
        if_true]
  · have magnitude : -(y.natAbs : Int) = y := by omega
    rw [text, List.cons_append, year, trimStart_cons (by decide)]
    simp only [signed, Except.map, bind, Except.bind, magnitude, range, and_self, if_true]
  · have magnitude : (y.natAbs : Int) = y := by omega
    rw [text, List.cons_append, year, trimStart_cons (by decide)]
    simp only [signed, Except.map, bind, Except.bind, magnitude, range, and_self, if_true]

theorem separator_cons {c : Char} (solid : isBlank c = false) (rest : List Char) :
    separator c (c :: rest) = .ok rest := by
  simp [separator, trimStart_cons solid, exactly]

theorem fraction_fractionText {nanos : Nat} (small : nanos < 1000000000) {c : Char}
    (other : c.isDigit = false) (undotted : c ≠ '.') (rest : List Char) :
    fraction (fractionText nanos ++ c :: rest) = .ok (nanos, c :: rest) := by
  have ends := Ends.cons other rest
  have places {width n : Nat} (positive : 0 < width) (fits : width ≤ 9) (short : n < Nat.pow 10 width)
      (scale : n * Nat.pow 10 (9 - width) = nanos) :
      fraction ('.' :: Decimal.padded width n ++ c :: rest) = .ok (nanos, c :: rest) := by
    have length := Decimal.length_padded width n positive short
    have bound : n < 1000000000 := Nat.lt_of_lt_of_le short (Nat.pow_le_pow_right (by decide) fits)
    have read : number 9 (Decimal.padded width n ++ c :: rest) = .ok (n, c :: rest) :=
      number_padded (by omega) ends (by omega)
    have consumed : (Decimal.padded width n ++ c :: rest).length - (c :: rest).length = width := by
      rw [List.length_append, Nat.add_sub_cancel, length]
    have stop : (c :: rest).dropWhile Char.isDigit = c :: rest := by simp [other]
    simp only [List.cons_append, fraction, read, bind, Except.bind, consumed, stop, scale]
  unfold fractionText
  split
  next zero =>
    rw [zero, List.nil_append, fraction]
    exact fun more same => undotted (List.cons.inj same).1
  next positive =>
    split
    next millis =>
        exact places (by decide) (by decide) (show nanos / 1000000 < 1000 by omega) (by simp; omega)
    next finer =>
      split
      next micros =>
          exact places (by decide) (by decide) (show nanos / 1000 < 1000000 by omega)
            (by simp; omega)
      next finest => exact places (by decide) (by decide) small (by simp)

theorem fractionText_ends (nanos : Nat) : Ends Char.isDigit (fractionText nanos ++ ['Z']) := by
  unfold fractionText
  split
  · exact .cons (by decide) _
  · split
    · exact .cons (by decide) _
    · split
      · exact .cons (by decide) _
      · exact .cons (by decide) _

theorem parts_written {y : Int} {month day hour minute second nanos : Nat}
    (year : -2147483648 ≤ y ∧ y < 2147483648) (months : 1 ≤ month ∧ month ≤ 12)
    (days : 1 ≤ day ∧ day ≤ 31) (hours : hour ≤ 23) (minutes : minute ≤ 59)
    (seconds : second ≤ 60) (within : nanos < 1000000000) :
    parts (yearText y ++ '-' :: Decimal.padded 2 month ++ '-' :: Decimal.padded 2 day
      ++ 'T' :: Decimal.padded 2 hour ++ ':' :: Decimal.padded 2 minute
      ++ ':' :: Decimal.padded 2 second ++ fractionText nanos ++ ['Z']) =
        .ok ⟨⟨y, month, day⟩, hour, minute, second, nanos, 0⟩ := by
  have ends {c : Char} (other : c.isDigit = false) (rest : List Char) := Ends.cons other rest
  have year (rest : List Char) : Rfc3339.year (yearText y ++ '-' :: rest) = .ok (y, '-' :: rest) :=
    year_yearText year.1 year.2 (ends (by decide) rest)
  have dash (rest : List Char) : separator '-' ('-' :: rest) = .ok rest :=
    separator_cons (by decide) rest
  have month (rest : List Char) :
      field 2 1 12 (Decimal.padded 2 month ++ '-' :: rest) = .ok (month, '-' :: rest) :=
    field_padded months (by decide) (ends (by decide) rest)
  have day (rest : List Char) :
      field 2 1 31 (Decimal.padded 2 day ++ 'T' :: rest) = .ok (day, 'T' :: rest) :=
    field_padded days (by decide) (ends (by decide) rest)
  have middle (rest : List Char) : dateEnd ('T' :: rest) = .ok rest := by simp [dateEnd]
  have hour (rest : List Char) :
      field 2 0 23 (Decimal.padded 2 hour ++ ':' :: rest) = .ok (hour, ':' :: rest) :=
    field_padded ⟨Nat.zero_le _, hours⟩ (by decide) (ends (by decide) rest)
  have colon (rest : List Char) : separator ':' (':' :: rest) = .ok rest :=
    separator_cons (by decide) rest
  have minute (rest : List Char) :
      field 2 0 59 (Decimal.padded 2 minute ++ ':' :: rest) = .ok (minute, ':' :: rest) :=
    field_padded ⟨Nat.zero_le _, minutes⟩ (by decide) (ends (by decide) rest)
  have second := field_padded ⟨Nat.zero_le _, seconds⟩ (by decide) (fractionText_ends nanos)
  have fraction := fraction_fractionText within (show 'Z'.isDigit = false by decide) (by decide) []
  have zone : offset (trimStart ['Z']) = .ok (0, []) := rfl
  simp only [parts, List.append_assoc, List.cons_append, bind, Except.bind, year, dash, month, day,
    middle, hour, colon, minute, second, fraction, zone]
  rfl

/-- The date of an instant. -/
def dateOf (t : Instant) : Calendar.Date :=
  Calendar.Date.ofNumber (t.seconds / 86400 + Calendar.epoch)

theorem dateOf_year (t : Instant) : -262143 ≤ (dateOf t).year ∧ (dateOf t).year ≤ 262142 := by
  have first := t.first_le
  have last := t.le_last
  refine Calendar.yearOfDay_bounds ?_ ?_
  · have begun : Calendar.daysBeforeYear (-262143) = -95745764 := by decide
    unfold Calendar.epoch
    omega
  · have ended : Calendar.daysBeforeYear (262142 + 1) = 95745765 := by decide
    unfold Calendar.epoch
    omega

/-- What the text of an instant says. -/
def readingOf (t : Instant) : Reading :=
  let clock := (t.seconds % 86400).toNat
  ⟨dateOf t, clock / 3600, clock / 60 % 60, clock % 60 + t.nanos / 1000000000,
    t.nanos % 1000000000, 0⟩

theorem parts_print (t : Instant) : parts (print t) = .ok (readingOf t) := by
  obtain ⟨first, last⟩ := dateOf_year t
  have valid : (dateOf t).Valid := (Calendar.Date.ofNumber_spec _).2.1
  have leap := t.leap_at_end
  have below := t.nanos_lt
  have year : -2147483648 ≤ (dateOf t).year ∧ (dateOf t).year < 2147483648 := by omega
  exact parts_written year ⟨valid.1, valid.2.1⟩ ⟨valid.2.2.1, valid.day_le⟩ (by omega) (by omega)
    (by omega) (by omega)

theorem instant_readingOf (t : Instant) : (readingOf t).instant = .ok t := by
  obtain ⟨-, valid, numbered⟩ := Calendar.Date.ofNumber_spec (t.seconds / 86400 + Calendar.epoch)
  have leap := t.leap_at_end
  have below := t.nanos_lt
  -- only a leap second is printed as the sixtieth
  have clock : ((readingOf t).hour * 3600 + (readingOf t).minute * 60 +
      min (readingOf t).second 59 : Nat) = (t.seconds % 86400).toNat := by
    simp only [readingOf]
    omega
  have seconds : ((readingOf t).date.number - Calendar.epoch) * 86400 +
      (t.seconds % 86400).toNat - (readingOf t).offset * 60 = t.seconds := by
    simp only [readingOf, dateOf, numbered]
    omega
  have nanos : (readingOf t).nanos + (if (readingOf t).second = 60 then 1000000000 else 0) =
      t.nanos := by
    by_cases leaping : 1000000000 ≤ t.nanos
    · have sixtieth : (readingOf t).second = 60 := by
        simp only [readingOf]
        omega
      rw [if_pos sixtieth]
      simp only [readingOf]
      omega
    · have ordinary : (readingOf t).second ≠ 60 := by
        simp only [readingOf]
        omega
      rw [if_neg ordinary]
      exact Nat.mod_eq_of_lt (by omega)
  have whole : Instant.ofParts? t.seconds t.nanos = some t :=
    dif_pos ⟨t.first_le, t.le_last, t.nanos_lt, t.leap_at_end⟩
  unfold Reading.instant
  rw [if_neg (not_not_intro ⟨valid, dateOf_year t⟩),
    if_neg (show ¬ 1440 ≤ (readingOf t).offset.natAbs from Nat.not_le.mpr (by decide : 0 < 1440))]
  simp only [clock, seconds, nanos, whole]

theorem read_print (t : Instant) : read (print t) = .ok t := by
  rw [read, parts_print]
  exact instant_readingOf t

end LeaseElection.Rfc3339
