import LeaseElection.Text.Glyph

namespace LeaseElection.Text

variable {a b d e : UInt8} {rest : List UInt8}

theorem isTail_iff : isTail b = true ↔ 0x80 ≤ b.toNat ∧ b.toNat ≤ 0xBF := by
  simp [isTail, UInt8.le_iff_toNat_le]

theorem firstChar?_one (lead : a.toNat < 0x80) :
    firstChar? (a :: rest) = some (Char.ofNat a.toNat, 1) := by
  simp [firstChar?, UInt8.lt_iff_toNat_lt, lead]

theorem firstChar?_two (lead : 0xC2 ≤ a.toNat ∧ a.toNat ≤ 0xDF) (second : isTail b = true) :
    firstChar? (a :: b :: rest) =
      some (Char.ofNat (64 * (a.toNat - 0xC0) + (b.toNat - 0x80)), 2) := by
  have range := isTail_iff.mp second
  simp only [firstChar?, UInt8.lt_iff_toNat_lt, UInt8.le_iff_toNat_le, ← UInt8.toNat_inj,
    UInt8.reduceToNat]
  rw [if_neg (by omega), if_pos lead]
  simp [second, range]

theorem firstChar?_three (lead : 0xE0 ≤ a.toNat ∧ a.toNat ≤ 0xEF) (second : isTail b = true)
    (third : isTail d = true) (low : a.toNat = 0xE0 → 0xA0 ≤ b.toNat)
    (high : a.toNat = 0xED → b.toNat ≤ 0x9F) :
    firstChar? (a :: b :: d :: rest) =
      some (Char.ofNat (64 * (64 * (a.toNat - 0xE0) + (b.toNat - 0x80)) + (d.toNat - 0x80)), 3) := by
  have range := isTail_iff.mp second
  simp only [firstChar?, UInt8.lt_iff_toNat_lt, UInt8.le_iff_toNat_le, ← UInt8.toNat_inj,
    UInt8.reduceToNat]
  rw [if_neg (by omega), if_neg (by omega)]
  by_cases least : a.toNat = 0xE0
  · rw [if_pos least]
    simp [second, third, range, low least, least]
  by_cases surrogates : a.toNat = 0xED
  · rw [if_neg least, if_pos surrogates]
    simp [second, third, range, high surrogates, surrogates]
  · rw [if_neg least, if_neg surrogates, if_pos (by omega)]
    simp [second, third, range]

theorem firstChar?_four (lead : 0xF0 ≤ a.toNat ∧ a.toNat ≤ 0xF4) (second : isTail b = true)
    (third : isTail d = true) (fourth : isTail e = true) (low : a.toNat = 0xF0 → 0x90 ≤ b.toNat)
    (high : a.toNat = 0xF4 → b.toNat ≤ 0x8F) :
    firstChar? (a :: b :: d :: e :: rest) =
      some (Char.ofNat (64 * (64 * (64 * (a.toNat - 0xF0) + (b.toNat - 0x80)) + (d.toNat - 0x80))
        + (e.toNat - 0x80)), 4) := by
  have range := isTail_iff.mp second
  simp only [firstChar?, UInt8.lt_iff_toNat_lt, UInt8.le_iff_toNat_le, ← UInt8.toNat_inj,
    UInt8.reduceToNat]
  rw [if_neg (by omega), if_neg (by omega), if_neg (by omega), if_neg (by omega),
    if_neg (by omega)]
  by_cases least : a.toNat = 0xF0
  · rw [if_pos least]
    simp [second, third, fourth, range, low least, least]
  by_cases greatest : a.toNat = 0xF4
  · rw [if_neg least, if_neg (by omega), if_pos greatest]
    simp [second, third, fourth, range, high greatest, greatest]
  · rw [if_neg least, if_pos (by omega)]
    simp [second, third, fourth, range]

theorem firstChar?_utf8 (c : Char) (rest : List UInt8) :
    firstChar? (String.utf8EncodeChar c ++ rest) =
      some (c, (String.utf8EncodeChar c).length) := by
  have valid : c.val.toNat < 0xD800 ∨ 0xDFFF < c.val.toNat ∧ c.val.toNat < 0x110000 := c.valid
  have whole (n : Nat) (same : n = c.val.toNat) : Char.ofNat n = c := by
    rw [same]
    exact Char.ofNat_toNat c
  have byte {n : Nat} (small : n < 256) : (UInt8.ofNat n).toNat = n :=
    UInt8.toNat_ofNat_of_lt small
  have tail (n : Nat) : isTail (UInt8.ofNat (n % 64 + 128)) = true :=
    isTail_iff.mpr (by rw [byte (by omega)]; omega)
  unfold String.utf8EncodeChar
  extract_lets v
  change v < 0xD800 ∨ 0xDFFF < v ∧ v < 0x110000 at valid
  by_cases one : v ≤ 127
  · have lead := byte (show v < 256 by omega)
    rw [if_pos one, List.cons_append, firstChar?_one (by omega), whole _ (by omega)]
    rfl
  by_cases two : v ≤ 2047
  · have lead := byte (show v / 64 % 32 + 192 < 256 by omega)
    have last := byte (show v % 64 + 128 < 256 by omega)
    rw [if_neg one, if_pos two, List.cons_append, List.cons_append,
      firstChar?_two (by omega) (tail v), whole _ (by omega)]
    rfl
  by_cases three : v ≤ 65535
  · have lead := byte (show v / 4096 % 16 + 224 < 256 by omega)
    have middle := byte (show v / 64 % 64 + 128 < 256 by omega)
    have last := byte (show v % 64 + 128 < 256 by omega)
    rw [if_neg one, if_neg two, if_pos three, List.cons_append, List.cons_append,
      List.cons_append, firstChar?_three (by omega) (tail _) (tail v) (by omega) (by omega),
      whole _ (by omega)]
    rfl
  · have lead := byte (show v / 262144 % 8 + 240 < 256 by omega)
    have second := byte (show v / 4096 % 64 + 128 < 256 by omega)
    have third := byte (show v / 64 % 64 + 128 < 256 by omega)
    have last := byte (show v % 64 + 128 < 256 by omega)
    rw [if_neg one, if_neg two, if_neg three, List.cons_append, List.cons_append,
      List.cons_append, List.cons_append,
      firstChar?_four (by omega) (tail _) (tail _) (tail v) (by omega) (by omega),
      whole _ (by omega)]
    rfl

theorem glyphsOfBytesFrom_covered (covered : List UInt8) (rest : List UInt8) :
    glyphsOfBytesFrom covered.length (covered ++ rest) = glyphsOfBytesFrom 0 rest := by
  induction covered with
  | nil => rfl
  | cons b covered ih => exact ih

theorem glyphsOfBytes_utf8 (s : String) : glyphsOfBytes s.toUTF8.data.toList = glyphs s := by
  have encoded : s.toUTF8.data.toList = s.toList.flatMap String.utf8EncodeChar := by
    change s.toByteArray.data.toList = _
    rw [← String.utf8Encode_toList, List.utf8Encode, List.data_toByteArray]
  rw [encoded, glyphsOfBytes, glyphs]
  induction s.toList with
  | nil => rfl
  | cons c cs ih =>
      have first := firstChar?_utf8 c (cs.flatMap String.utf8EncodeChar)
      rw [List.flatMap_cons]
      obtain ⟨b, tails, same⟩ : ∃ b tails, String.utf8EncodeChar c = b :: tails :=
        List.exists_cons_of_ne_nil String.utf8EncodeChar_ne_nil
      rw [same] at first ⊢
      rw [List.cons_append] at first ⊢
      rw [glyphsOfBytesFrom, first]
      simp only [List.length_cons, Nat.add_sub_cancel, glyphsOfBytesFrom_covered, ih]
      rfl

end LeaseElection.Text
