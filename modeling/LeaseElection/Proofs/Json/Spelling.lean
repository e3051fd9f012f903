import LeaseElection.Json.Printer
import LeaseElection.Proofs.Json.Ensuring
import LeaseElection.Proofs.Json.Layout

namespace LeaseElection.Json.Reader

open LeaseElection.Text (Glyph)

variable {text : List Char} {rest : List Glyph}

theorem reads_simpleEscape {c d : Char} (escapes : simpleEscape? c = some d) (plain : c ≠ 'u') :
    Reads escape [c] rest d := by
  unfold escape
  apply Reads.peek
  split
  next none => cases none
  next stray => cases stray
  next same =>
    cases same
    exact absurd rfl plain
  next same =>
    cases same
    rw [escapes]
    exact .advance .pure

theorem reads_hexEscape {four : List Char} {n : Nat} (length : four.length = 4)
    (value : hexValue4? (four.map .char) = some n) : Reads hexEscape four rest n := by
  unfold hexEscape
  refine .get fun before place => ?_
  obtain ⟨behind, skipped⟩ := skip_append four rest before
  have front : (four.map Glyph.char ++ rest).take 4 = four.map .char :=
    List.take_left' (by simpa using length)
  refine ⟨behind, ?_⟩
  simp only [front, value]
  rw [← skipped, length]
  rfl

theorem reads_escaped {c : Char} (escaped : Reads escape text rest c) :
    Reads stringItem ('\\' :: text) rest (.char c) := by
  unfold stringItem
  apply Reads.peek
  apply Reads.advance
  exact Reads.last escaped .pure

theorem hexValue?_char (d : HexDigit) : hexValue? d.char = some d.value.val := by
  have all : ∀ value capital,
      hexValue? (HexDigit.mk value capital).char = some value.val := by decide
  exact all d.value d.capital

theorem reads_hexQuad (q : HexQuad) : Reads hexEscape q.text rest q.code := by
  refine reads_hexEscape rfl ?_
  simp only [HexQuad.text, List.map_cons, List.map_nil, hexValue4?, hexValue?_char, HexQuad.code,
    bind, Option.bind, Option.some.injEq]
  omega

theorem isHighSurrogate_iff (q : HexQuad) : isHighSurrogate q.code = true ↔ q.IsHigh := by
  simp only [isHighSurrogate, HexQuad.IsHigh, Bool.and_eq_true, decide_eq_true_eq]
  omega

theorem isLowSurrogate_iff (q : HexQuad) : isLowSurrogate q.code = true ↔ q.IsLow := by
  simp only [isLowSurrogate, HexQuad.IsLow, Bool.and_eq_true, decide_eq_true_eq]
  omega

theorem shorthands_escape {letter c : Char} (listed : (letter, c) ∈ shorthands) :
    simpleEscape? letter = some c ∧ letter ≠ 'u' := by
  have all : ∀ pair ∈ shorthands, simpleEscape? pair.1 = some pair.2 ∧ pair.1 ≠ 'u' := by decide
  exact all _ listed

theorem reads_plain {c : Char} (visible : 0x20 ≤ c.toNat ∧ c ≠ '"' ∧ c ≠ '\\') :
    Reads stringItem [c] rest (.char c) := by
  obtain ⟨printable, quote, backslash⟩ := visible
  unfold stringItem
  apply Reads.peek
  split
  next none => cases none
  next stray => cases stray
  next same =>
    cases same
    exact absurd rfl quote
  next same =>
    cases same
    exact absurd rfl backslash
  next same =>
    cases same
    rw [if_neg (Nat.not_lt_of_le printable)]
    exact .advance .pure

theorem reads_short {letter c : Char} (listed : (letter, c) ∈ shorthands) :
    Reads stringItem ['\\', letter] rest (.char c) :=
  reads_escaped (reads_simpleEscape (shorthands_escape listed).1 (shorthands_escape listed).2)

theorem reads_unit {q : HexQuad} (high : ¬ q.IsHigh) (low : ¬ q.IsLow) :
    Reads stringItem (Stroke.unit q).text rest (.char (Char.ofNat q.code)) := by
  have whole : Reads escape ('u' :: q.text) rest (Char.ofNat q.code) := by
    unfold escape
    refine .peek (.advance (.last (reads_hexQuad q) ?_))
    rw [if_neg (mt (isLowSurrogate_iff q).mp low), if_neg (mt (isHighSurrogate_iff q).mp high)]
    exact .pure
  exact reads_escaped whole

theorem reads_pairGlyph (c : Char) : Reads (pairGlyph c) [c] rest () := by
  unfold pairGlyph
  refine .peek ?_
  dsimp only
  rw [if_pos rfl]
  exact .last (f := fun _ => pure ()) (.advance .pure) .pure

theorem reads_pair {q half : HexQuad} (high : q.IsHigh) (low : half.IsLow) :
    Reads stringItem ((Stroke.unit q).text ++ (Stroke.unit half).text) rest
      (.char (Char.ofNat (0x10000 + (q.code - 0xD800) * 0x400 + (half.code - 0xDC00)))) := by
  have pair : Reads escape ('u' :: (q.text ++ (['\\'] ++ (['u'] ++ half.text)))) rest
      (Char.ofNat ((q.code - 0xD800) * 0x400 + (half.code - 0xDC00) + 0x10000)) := by
    unfold escape
    refine .peek (.advance (.bind (reads_hexQuad q) ?_))
    rw [if_neg (mt (isLowSurrogate_iff q).mp high.not_isLow), if_pos ((isHighSurrogate_iff q).mpr high)]
    refine .bind (reads_pairGlyph '\\') (.bind (reads_pairGlyph 'u') ?_)
    refine .last (reads_hexQuad half) ?_
    rw [if_pos ((isLowSurrogate_iff half).mpr low)]
    exact .pure
  have order : 0x10000 + (q.code - 0xD800) * 0x400 + (half.code - 0xDC00) =
      (q.code - 0xD800) * 0x400 + (half.code - 0xDC00) + 0x10000 := by omega
  rw [order]
  exact reads_escaped pair

theorem reads_stringEnd (fuel : Nat) (read : List Char) :
    Reads (stringItems (fuel + 1) read none) ['"'] rest (String.ofList read.reverse) := by
  have closes : Reads stringItem ['"'] rest .close := by
    unfold stringItem
    exact .peek (.advance .pure)
  rw [stringItems]
  exact Reads.last closes .pure

/-- One character of a string, and then the others. -/
theorem reads_stringMore {text more : List Char} {c : Char} {cs read : List Char} {fuel : Nat}
    (first : Reads stringItem text (more.map .char ++ rest) (.char c))
    (others : Reads (stringItems fuel (c :: read) none) more rest
      (String.ofList ((c :: read).reverse ++ cs))) :
    Reads (stringItems (fuel + 1) read none) (text ++ more) rest
      (String.ofList (read.reverse ++ c :: cs)) := by
  rw [List.reverse_cons, List.append_assoc, List.singleton_append] at others
  rw [stringItems]
  exact Reads.bind first others

theorem reads_spoken {strokes : List Stroke} {cs : List Char} (spoken : spoken? strokes = some cs)
    (read : List Char) {fuel : Nat} (enough : strokes.length ≤ fuel) :
    Reads (stringItems (fuel + 1) read none) (strokes.flatMap Stroke.text ++ ['"']) rest
      (String.ofList (read.reverse ++ cs)) := by
  fun_induction spoken? strokes generalizing cs read fuel with
  | case1 =>
      cases spoken
      rw [List.append_nil]
      exact reads_stringEnd fuel read
  | case2 c visible more ih =>
      obtain ⟨tail, tailSpoken, rfl⟩ := Option.map_eq_some_iff.mp spoken
      obtain ⟨fuel, rfl⟩ := Nat.exists_eq_add_of_lt enough
      rw [List.flatMap_cons, List.append_assoc]
      exact reads_stringMore (reads_plain visible) (ih tailSpoken (c :: read) (by omega))
  | case3 letter c listed more ih =>
      obtain ⟨tail, tailSpoken, rfl⟩ := Option.map_eq_some_iff.mp spoken
      obtain ⟨fuel, rfl⟩ := Nat.exists_eq_add_of_lt enough
      rw [List.flatMap_cons, List.append_assoc]
      exact reads_stringMore (reads_short listed) (ih tailSpoken (c :: read) (by omega))
  | case4 code high half others low ih =>
      obtain ⟨tail, tailSpoken, rfl⟩ := Option.map_eq_some_iff.mp spoken
      rw [List.length_cons, List.length_cons] at enough
      obtain ⟨fuel, rfl⟩ := Nat.exists_eq_add_of_lt enough
      rw [List.flatMap_cons, List.flatMap_cons, ← List.append_assoc, List.append_assoc]
      exact reads_stringMore (reads_pair high low) (ih tailSpoken _ (by omega))
  | case5 code high half others notLow =>
      cases spoken
  | case6 code more high alone =>
      cases spoken
  | case7 code more notHigh low =>
      cases spoken
  | case8 code more notHigh notLow ih =>
      obtain ⟨tail, tailSpoken, rfl⟩ := Option.map_eq_some_iff.mp spoken
      obtain ⟨fuel, rfl⟩ := Nat.exists_eq_add_of_lt enough
      rw [List.flatMap_cons, List.append_assoc]
      exact reads_stringMore (reads_unit notHigh notLow) (ih tailSpoken _ (by omega))

theorem refuses_pairGlyph {expected c : Char} (other : c ≠ expected) :
    Refuses (pairGlyph expected) (.char c :: rest) := by
  unfold pairGlyph
  refine .peek ?_
  dsimp only [List.head?_cons]
  rw [if_neg (by simpa using other)]
  exact .failAhead _

theorem refuses_escaped {more : List Glyph} (refuses : Refuses escape more) :
    Refuses stringItem (.char '\\' :: more) := by
  unfold stringItem
  exact .peek (.advance (.bindRefuses refuses))

theorem refuses_lowFirst {q : HexQuad} (low : q.IsLow) :
    Refuses stringItem ((Stroke.unit q).text.map .char ++ rest) := by
  have first : Refuses escape (.char 'u' :: (q.text.map .char ++ rest)) := by
    unfold escape
    refine .peek (.advance (.bindReads (reads_hexQuad q) ?_))
    rw [if_pos ((isLowSurrogate_iff q).mpr low)]
    exact .fail _
  exact refuses_escaped first

/-- What follows the first half of a character and is not the second half is refused. -/
theorem refuses_highAlone {q : HexQuad} (high : q.IsHigh) {more : List Stroke}
    (alone : ∀ half others, more = .unit half :: others → ¬ half.IsLow) :
    Refuses stringItem ((Stroke.unit q).text.map .char ++
      ((more.flatMap Stroke.text ++ ['"']).map .char ++ rest)) := by
  have lone : Refuses escape (.char 'u' :: (q.text.map .char ++
      ((more.flatMap Stroke.text ++ ['"']).map .char ++ rest))) := by
    unfold escape
    refine .peek (.advance (.bindReads (reads_hexQuad q) ?_))
    rw [if_neg (mt (isLowSurrogate_iff q).mp high.not_isLow),
      if_pos ((isHighSurrogate_iff q).mpr high)]
    cases more with
    | nil => exact .bindRefuses (refuses_pairGlyph (by decide))
    | cons stroke others =>
        cases stroke with
        | plain c visible => exact .bindRefuses (refuses_pairGlyph visible.2.2)
        | short letter c listed =>
            refine .bindReadsChar (reads_pairGlyph '\\') (.bindRefuses (refuses_pairGlyph ?_))
            exact (shorthands_escape listed).2
        | unit half =>
            have shape : (Stroke.unit half :: others).flatMap Stroke.text ++ ['"'] =
                '\\' :: 'u' :: (half.text ++ (others.flatMap Stroke.text ++ ['"'])) := rfl
            rw [shape, List.map_cons, List.map_cons, List.map_append, List.cons_append,
              List.cons_append, List.append_assoc]
            refine .bindReadsChar (reads_pairGlyph '\\') (.bindReadsChar (reads_pairGlyph 'u') ?_)
            refine .bindReads (reads_hexQuad half) ?_
            rw [if_neg (mt (isLowSurrogate_iff half).mp (alone half others rfl))]
            exact .fail _
  exact refuses_escaped lone

/-- What comes first is read, and the others are refused. -/
theorem refuses_stringMore {text more : List Char} {c : Char} {read : List Char}
    (first : Reads stringItem text (more.map .char ++ rest) (.char c))
    (others : ∀ read fuel, Refuses (stringItems fuel read none) (more.map .char ++ rest))
    (fuel : Nat) : Refuses (stringItems fuel read none) ((text ++ more).map .char ++ rest) := by
  cases fuel with
  | zero => exact .fail _
  | succ fuel =>
      rw [stringItems, List.map_append, List.append_assoc]
      exact .bindReads first (others _ _)

theorem refuses_stringFirst {text more : List Char} {read : List Char}
    (first : Refuses stringItem (text.map .char ++ (more.map .char ++ rest))) (fuel : Nat) :
    Refuses (stringItems fuel read none) ((text ++ more).map .char ++ rest) := by
  cases fuel with
  | zero => exact .fail _
  | succ fuel =>
      rw [stringItems, List.map_append, List.append_assoc]
      exact .bindRefuses first

theorem refuses_unspoken {strokes : List Stroke} (unspoken : spoken? strokes = none)
    (read : List Char) (fuel : Nat) :
    Refuses (stringItems fuel read none)
      ((strokes.flatMap Stroke.text ++ ['"']).map .char ++ rest) := by
  fun_induction spoken? strokes generalizing read fuel with
  | case1 => cases unspoken
  | case2 c visible more ih =>
      have later := ih (Option.map_eq_none_iff.mp unspoken)
      rw [List.flatMap_cons, List.append_assoc]
      exact refuses_stringMore (reads_plain visible) later fuel
  | case3 letter c listed more ih =>
      have later := ih (Option.map_eq_none_iff.mp unspoken)
      rw [List.flatMap_cons, List.append_assoc]
      exact refuses_stringMore (reads_short listed) later fuel
  | case4 code high half others low ih =>
      have later := ih (Option.map_eq_none_iff.mp unspoken)
      rw [List.flatMap_cons, List.flatMap_cons, ← List.append_assoc, List.append_assoc]
      exact refuses_stringMore (reads_pair high low) later fuel
  | case5 code high half others notLow =>
      rw [List.flatMap_cons, List.append_assoc]
      refine refuses_stringFirst (refuses_highAlone high ?_) fuel
      rintro _ _ same
      cases same
      exact notLow
  | case6 code more high alone =>
      rw [List.flatMap_cons, List.append_assoc]
      refine refuses_stringFirst (refuses_highAlone high fun half others same => ?_) fuel
      exact (alone half others same).elim
  | case7 code more notHigh low =>
      rw [List.flatMap_cons, List.append_assoc]
      exact refuses_stringFirst (refuses_lowFirst low) fuel
  | case8 code more notHigh notLow ih =>
      have later := ih (Option.map_eq_none_iff.mp unspoken)
      rw [List.flatMap_cons, List.append_assoc]
      exact refuses_stringMore (reads_unit notHigh notLow) later fuel

theorem length_le_strokes (strokes : List Stroke) :
    strokes.length ≤ (strokes.flatMap Stroke.text).length := by
  have positive (stroke : Stroke) : 1 ≤ stroke.text.length := by cases stroke <;> simp [Stroke.text]
  induction strokes with
  | nil => exact Nat.zero_le _
  | cons stroke strokes ih =>
      have first := positive stroke
      rw [List.flatMap_cons, List.length_append, List.length_cons]
      omega

theorem reads_stringBody_of_spoken {strokes : List Stroke} {s : String}
    (spoken : spoken? strokes = some s.toList) :
    Reads stringBody (strokes.flatMap Stroke.text ++ ['"']) rest s := by
  unfold stringBody
  refine .get fun place => ?_
  have enough : strokes.length ≤
      ((strokes.flatMap Stroke.text ++ ['"']).map Glyph.char ++ rest).length := by
    have length := length_le_strokes strokes
    simp only [List.length_append, List.length_map]
    omega
  have read : Reads (stringItems _ [] none) _ rest (String.ofList s.toList) :=
    reads_spoken spoken [] enough
  rwa [String.ofList_toList] at read

/-- A string that is read at all is what its strokes stand for. -/
theorem ensures_stringBody (strokes : List Stroke) :
    Ensures stringBody ((strokes.flatMap Stroke.text ++ ['"']).map .char ++ rest)
      fun s left => spoken? strokes = some s.toList ∧ left = rest := by
  cases spoken : spoken? strokes with
  | none =>
      refine .of_refuses ?_
      unfold stringBody
      exact .get fun place => refuses_unspoken spoken [] _
  | some cs =>
      have whole : spoken? strokes = some (String.ofList cs).toList := by
        rw [String.toList_ofList, spoken]
      refine (Ensures.of_reads (reads_stringBody_of_spoken whole)).mono ?_
      rintro s left ⟨rfl, rfl⟩
      exact ⟨by rw [String.toList_ofList], rfl⟩

theorem reads_skipEscape_short {letter c : Char} (listed : (letter, c) ∈ shorthands) :
    Reads skipEscape [letter] rest () := by
  obtain ⟨escapes, plain⟩ := shorthands_escape listed
  unfold skipEscape
  refine .peek ?_
  split
  next none => cases none
  next stray => cases stray
  next same =>
    cases same
    exact absurd rfl plain
  next same =>
    cases same
    rw [escapes]
    exact .last (f := fun _ => pure ()) (.advance .pure) .pure

theorem reads_skipEscape_unit (q : HexQuad) : Reads skipEscape ('u' :: q.text) rest () := by
  unfold skipEscape
  exact .peek (.advance (.last (reads_hexQuad q) .pure))

theorem reads_skipStringItems {strokes : List Stroke} {fuel : Nat}
    (enough : strokes.length ≤ fuel) :
    Reads (skipStringItems (fuel + 1)) (strokes.flatMap Stroke.text ++ ['"']) rest () := by
  induction strokes generalizing fuel with
  | nil =>
      rw [skipStringItems]
      exact .peek (.last (f := fun _ => pure ()) (.advance .pure) .pure)
  | cons stroke strokes ih =>
      obtain ⟨fuel, rfl⟩ := Nat.exists_eq_add_of_lt enough
      have others : Reads (skipStringItems (strokes.length + fuel + 1)) _ rest () := ih (by omega)
      rw [skipStringItems, List.flatMap_cons, List.append_assoc]
      cases stroke with
      | plain c visible =>
          refine .peek ?_
          split
          next none => cases none
          next same =>
            cases same
            exact absurd rfl visible.2.1
          next same =>
            cases same
            exact absurd rfl visible.2.2
          next same =>
            cases same
            dsimp only
            rw [if_neg (by omega)]
            exact .advance others
      | short letter c listed =>
          exact .peek (.advance (.bind (reads_skipEscape_short listed) others))
      | unit code =>
          exact .peek (.advance (.bind (reads_skipEscape_unit code) others))

theorem reads_skipString (strokes : List Stroke) :
    Reads skipString (strokes.flatMap Stroke.text ++ ['"']) rest () := by
  unfold skipString
  refine .get fun place => reads_skipStringItems ?_
  have length := length_le_strokes strokes
  simp only [List.length_append, List.length_map]
  omega

/-- What the printer writes for a character of a string. -/
theorem escape_cases (c : Char) :
    (∃ d, Json.escape c = ['\\', d] ∧ simpleEscape? d = some c ∧ d ≠ 'u') ∨
      (c.toNat < 0x20 ∧ Json.escape c =
        ['\\', 'u', '0', '0', Text.hexDigit (c.toNat / 16), Text.hexDigit (c.toNat % 16)]) ∨
      (c ≠ '"' ∧ c ≠ '\\' ∧ ¬ c.toNat < 0x20 ∧ Json.escape c = [c]) := by
  by_cases quote : c = '"'
  · subst quote
    exact .inl ⟨'"', rfl, rfl, by decide⟩
  by_cases backslash : c = '\\'
  · subst backslash
    exact .inl ⟨'\\', rfl, rfl, by decide⟩
  by_cases backspace : c = '\x08'
  · subst backspace
    exact .inl ⟨'b', rfl, rfl, by decide⟩
  by_cases formFeed : c = '\x0c'
  · subst formFeed
    exact .inl ⟨'f', rfl, rfl, by decide⟩
  by_cases newline : c = '\n'
  · subst newline
    exact .inl ⟨'n', rfl, rfl, by decide⟩
  by_cases carriageReturn : c = '\r'
  · subst carriageReturn
    exact .inl ⟨'r', rfl, rfl, by decide⟩
  by_cases tab : c = '\t'
  · subst tab
    exact .inl ⟨'t', rfl, rfl, by decide⟩
  have others : Json.escape c = if c.toNat < 0x20 then
      ['\\', 'u', '0', '0', Text.hexDigit (c.toNat / 16), Text.hexDigit (c.toNat % 16)]
      else [c] := by
    simp only [Json.escape, if_neg, quote, backslash, backspace, formFeed, newline, carriageReturn,
      tab, not_false_eq_true]
  by_cases control : c.toNat < 0x20
  · exact .inr (.inl ⟨control, by rw [others, if_pos control]⟩)
  · exact .inr (.inr ⟨quote, backslash, control, by rw [others, if_neg control]⟩)

theorem shorthands_of_simpleEscape {letter c : Char} (escapes : simpleEscape? letter = some c) :
    (letter, c) ∈ shorthands := by
  unfold simpleEscape? at escapes
  split at escapes <;> cases escapes <;> decide

/-- What the printer writes for a character is a stroke for it. -/
theorem exists_stroke (c : Char) : ∃ stroke, Stroke.text stroke = Json.escape c ∧
    ∀ more, spoken? (stroke :: more) = (spoken? more).map (c :: ·) := by
  rcases escape_cases c with ⟨letter, text, escapes, -⟩ | ⟨control, text⟩ |
    ⟨quote, backslash, visible, text⟩
  · exact ⟨.short letter c (shorthands_of_simpleEscape escapes), text.symm, fun _ => rfl⟩
  · have low : c.toNat % 16 < 16 := Nat.mod_lt _ (by decide)
    let code : HexQuad := ⟨⟨0, false⟩, ⟨0, false⟩, ⟨⟨c.toNat / 16, by omega⟩, false⟩,
      ⟨⟨c.toNat % 16, low⟩, false⟩⟩
    have value : code.code = c.toNat := by
      change 4096 * 0 + 256 * 0 + 16 * (c.toNat / 16) + c.toNat % 16 = c.toNat
      omega
    refine ⟨.unit code, text.symm, fun more => ?_⟩
    rw [spoken?_unit, value, Char.ofNat_toNat]
    · unfold HexQuad.IsHigh
      omega
    · unfold HexQuad.IsLow
      omega
  · exact ⟨.plain c ⟨by omega, quote, backslash⟩, text.symm, fun _ => rfl⟩

theorem spells_printString (s : String) : Spells (printString s) s := by
  have all (cs : List Char) : ∃ strokes, cs.flatMap Json.escape = strokes.flatMap Stroke.text ∧
      spoken? strokes = some cs := by
    induction cs with
    | nil => exact ⟨[], rfl, rfl⟩
    | cons c cs ih =>
        obtain ⟨strokes, text, spoken⟩ := ih
        obtain ⟨stroke, first, speaks⟩ := exists_stroke c
        refine ⟨stroke :: strokes, ?_, ?_⟩
        · rw [List.flatMap_cons, List.flatMap_cons, text, first]
        · rw [speaks, spoken, Option.map_some]
  obtain ⟨strokes, text, spoken⟩ := all s.toList
  exact ⟨strokes, by rw [printString, quoted, text]; rfl, spoken⟩

end LeaseElection.Json.Reader
