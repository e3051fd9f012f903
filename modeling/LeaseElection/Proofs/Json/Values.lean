import LeaseElection.Proofs.Json.Numbers

namespace LeaseElection.Json.Reader

open LeaseElection.Text (Glyph)

variable {α β : Type} {r : Reader α} {rest before : List Glyph} {text gap value : List Char} {a : α}

/-- The reader passes over blanks first. -/
def TakesBlanks (r : Reader α) : Prop := ∀ gap, IsBlank gap → ∀ rest place,
  ∃ behind, r ⟨gap.map .char ++ rest, place⟩ = r ⟨rest, behind⟩

theorem isSpace_of_blank (blank : IsBlank gap) : ∀ g ∈ gap.map Glyph.char, isSpace g = true := by
  intro g among
  obtain ⟨c, inside, rfl⟩ := List.mem_map.mp among
  rcases blank c inside with rfl | rfl | rfl | rfl <;> rfl

theorem spaces_eq (cursor : Cursor) :
    spaces cursor = (.ok (), cursor.skip (cursor.rest.takeWhile isSpace).length) := rfl

theorem skip_skip (first second : Nat) (cursor : Cursor) :
    (cursor.skip first).skip second = cursor.skip (first + second) := by
  induction first generalizing cursor with
  | zero => rw [Nat.zero_add, Cursor.skip]
  | succ first ih => rw [Nat.add_right_comm, Cursor.skip, Cursor.skip, ih]

theorem takesBlanks_spaces : TakesBlanks spaces := by
  intro gap blank rest place
  obtain ⟨behind, passed⟩ := skip_append gap rest place
  refine ⟨behind, ?_⟩
  rw [spaces_eq, spaces_eq, ← passed]
  have taken : (gap.map Glyph.char ++ rest).takeWhile isSpace =
      gap.map .char ++ rest.takeWhile isSpace :=
    List.takeWhile_append_of_pos (isSpace_of_blank blank)
  rw [skip_skip, passed, taken, List.length_append, List.length_map]

namespace TakesBlanks

theorem bind {f : α → Reader β} (takes : TakesBlanks r) : TakesBlanks (r >>= f) := by
  intro gap blank rest place
  obtain ⟨behind, same⟩ := takes gap blank rest place
  refine ⟨behind, ?_⟩
  change (match r _ with | (result, cursor) => ExceptT.bindCont f result cursor) =
    (match r _ with | (result, cursor) => ExceptT.bindCont f result cursor)
  rw [same]

theorem settle (takes : TakesBlanks r) : TakesBlanks (Reader.settle r) := by
  intro gap blank rest place
  obtain ⟨behind, same⟩ := takes gap blank rest place
  exact ⟨behind, by rw [Reader.settle, Reader.settle, same]⟩

theorem peekToken : TakesBlanks Reader.peekToken := bind takesBlanks_spaces

theorem reads (takes : TakesBlanks r) (blank : IsBlank gap) (reads : Reads r text rest a) :
    Reads r (gap ++ text) rest a := by
  intro place
  rw [List.map_append, List.append_assoc]
  obtain ⟨behind, same⟩ := takes gap blank (text.map .char ++ rest) place
  rw [same]
  exact reads behind

theorem ensures {post : α → List Glyph → Prop} (takes : TakesBlanks r) (blank : IsBlank gap)
    (ensures : Ensures r before post) : Ensures r (gap.map .char ++ before) post := by
  intro place a after done
  obtain ⟨behind, same⟩ := takes gap blank before place
  rw [same] at done
  exact ensures behind a after done

end TakesBlanks

/-- The reader passes over blanks, and then reads a value to its end or refuses it. -/
structure Consumes (r : Reader α) : Prop where
  blanks : TakesBlanks r
  whole : ∀ value rest, WellFormed value → EndsNumber rest →
    Ensures r (value.map .char ++ rest) fun _ left => left = rest

namespace Consumes

theorem map {f : α → β} (consumes : Consumes r) : Consumes (r >>= fun a => pure (f a)) where
  blanks := consumes.blanks.bind
  whole := by
    intro value rest wellFormed ends
    refine (consumes.whole value rest wellFormed ends).bind ?_
    rintro a left rfl
    exact .pure rfl

theorem ensures (consumes : Consumes r) (blank : IsBlank gap) (wellFormed : WellFormed value)
    (ends : EndsNumber rest) :
    Ensures r ((gap ++ value).map .char ++ rest) fun _ left => left = rest := by
  rw [List.map_append, List.append_assoc]
  exact consumes.blanks.ensures blank (consumes.whole value rest wellFormed ends)

end Consumes

theorem Ensures.token {post : β → List Glyph → Prop} {f : Option Glyph → Reader β} {g : Glyph}
    (solid : isSpace g = false) (next : Ensures (f (some g)) (g :: before) post) :
    Ensures (peekToken >>= f) (g :: before) post := by
  intro place b after done
  have first : peekToken ⟨g :: before, place⟩ = _ := peekToken_eq (by simpa using solid)
  rw [bind_of_ok first] at done
  exact next place b after done

theorem refuses_refuseType (expected : String) :
    Refuses (refuseType expected : Reader α) before := by
  unfold refuseType
  refine .settle (.bindAny fun _ _ => ?_)
  extract_lets
  split
  · exact .bindAny fun _ _ => .bindAny fun _ _ => .failData _
  · exact .bindAny fun _ _ => .bindAny fun _ _ => .failData _
  · exact .bindAny fun _ _ => .bindAny fun _ _ => .failData _
  · exact .bindAny fun _ _ => .bindAny fun _ _ => .failData _
  · exact .bindAny fun _ _ => .bindAny fun _ _ => .failData _
  · exact .failData _
  · exact .failData _
  · split
    · exact .bindAny fun _ _ => .failData _
    · exact .failAhead _
  · exact .failAhead _

theorem first_of_number (n : DecimalNumber) : ∃ c more, n.text = c :: more ∧
    isSpace (.char c) = false ∧ c ≠ '"' ∧ c ≠ ']' := by
  rcases n.text_cases with text | ⟨text, d, more, magnitude, digit⟩
  · exact ⟨'-', _, text, by decide⟩
  · refine ⟨d, more, text.trans magnitude, isDigit_not_space digit, ?_, ?_⟩
    · rintro rfl
      exact absurd digit (by decide)
    · rintro rfl
      exact absurd digit (by decide)

theorem first_of_other {c : Char} (among : c ∈ ['n', 't', 'f', '[', '\x7b']) :
    isSpace (.char c) = false ∧ c ≠ '"' ∧ c ≠ ']' ∧ c ≠ '-' ∧ c.isDigit = false := by
  simp only [List.mem_cons, List.not_mem_nil, or_false] at among
  rcases among with rfl | rfl | rfl | rfl | rfl <;> decide

theorem first_of_value (wellFormed : WellFormed value) :
    ∃ c more, value = c :: more ∧ isSpace (.char c) = false ∧ c ≠ ']' := by
  rcases wellFormed.kind with ⟨strokes, rfl⟩ | ⟨n, rfl⟩ | ⟨c, more, rfl, among⟩
  · exact ⟨'"', _, rfl, by decide⟩
  · obtain ⟨c, more, text, solid, -, other⟩ := first_of_number n
    exact ⟨c, more, text, solid, other⟩
  · obtain ⟨solid, -, other, -⟩ := first_of_other among
    exact ⟨c, more, rfl, solid, other⟩

theorem takesBlanks_stringAs (expected : String) : TakesBlanks (stringAs expected) :=
  .bind .peekToken

theorem reads_stringAs_of_spells {s : String} (expected : String) (spells : Spells text s) :
    Reads (stringAs expected) text rest s := by
  obtain ⟨strokes, rfl, spoken⟩ := spells
  unfold stringAs quoted
  exact .token (by decide) (.advance (reads_stringBody_of_spoken spoken))

theorem refuses_stringAs {c : Char} (solid : isSpace (.char c) = false) (other : c ≠ '"')
    (expected : String) : Refuses (stringAs expected) (.char c :: before) := by
  unfold stringAs
  refine .token solid ?_
  split
  next none => cases none
  next same =>
    cases same
    exact absurd rfl other
  next same => exact refuses_refuseType expected

theorem ensures_stringAs (expected : String) (wellFormed : WellFormed value) :
    Ensures (stringAs expected) (value.map .char ++ rest) fun _ left => left = rest := by
  rcases wellFormed.kind with ⟨strokes, rfl⟩ | ⟨n, rfl⟩ | ⟨c, more, rfl, among⟩
  · unfold stringAs quoted
    refine .token (by decide) (.advance ?_)
    exact (ensures_stringBody strokes).mono fun _ _ read => read.2
  · obtain ⟨c, more, text, solid, other, -⟩ := first_of_number n
    rw [text]
    exact .of_refuses (refuses_stringAs solid other expected)
  · obtain ⟨solid, other, -⟩ := first_of_other among
    exact .of_refuses (refuses_stringAs solid other expected)

theorem reads_stringMeaning_of_spells {meaning : String → Except String α} {s : String}
    (expected : String) (spells : Spells text s) (means : meaning s = .ok a) :
    Reads (stringMeaning expected meaning) text rest a := by
  unfold stringMeaning
  apply Reads.settle
  refine Reads.last (reads_stringAs_of_spells expected spells) ?_
  rw [means]
  exact .pure

theorem consumes_stringAs (expected : String) : Consumes (stringAs expected) where
  blanks := takesBlanks_stringAs expected
  whole := fun _ _ wellFormed _ => ensures_stringAs expected wellFormed

theorem consumes_stringMeaning (expected : String) (meaning : String → Except String α) :
    Consumes (stringMeaning expected meaning) where
  blanks := .settle (.bind (takesBlanks_stringAs expected))
  whole := by
    intro value rest wellFormed ends
    unfold stringMeaning
    refine .settle ((ensures_stringAs expected wellFormed).bind ?_)
    rintro s left rfl
    split
    · exact .pure rfl
    · exact .of_refuses (.failData _)

variable {low high : Int}

theorem refuses_integer {c : Char} (solid : isSpace (.char c) = false) (minus : c ≠ '-')
    (other : c.isDigit = false) (expected : String) :
    Refuses (integer low high expected) (.char c :: before) := by
  unfold integer
  extract_lets check accept
  refine .settle (.token solid ?_)
  split
  next none => cases none
  next same =>
    cases same
    exact absurd rfl minus
  next same =>
    cases same
    rw [show isDigit (.char c) = false from other, if_neg (by decide)]
    exact refuses_refuseType expected

/-- A number with decimal places or an exponent is refused, and any other is read to its end. -/
theorem ensures_integer (expected : String) (wellFormed : WellFormed value)
    (ends : EndsNumber rest) :
    Ensures (integer low high expected) (value.map .char ++ rest) fun _ left => left = rest := by
  rcases wellFormed.kind with ⟨strokes, rfl⟩ | ⟨n, rfl⟩ | ⟨c, more, rfl, among⟩
  · exact .of_refuses (refuses_integer (by decide) (by decide) (by decide) expected)
  · unfold integer
    extract_lets check accept
    have accepts (x : Number) (left : List Glyph) (read : x.IsFloat ∨ left = rest) :
        Ensures (accept x) left fun _ left => left = rest := by
      have checks (i : Int) (whole : left = rest) :
          Ensures (check i) left fun _ left => left = rest := by
        simp only [check]
        split
        · exact .pure whole
        · exact .of_refuses (.failData _)
      cases x with
      | natural value => exact checks _ (read.resolve_left id)
      | negative value => exact checks _ (read.resolve_left id)
      | float text => exact .of_refuses (.failData _)
    apply Ensures.settle
    rcases n.text_cases with text | ⟨text, d, more, magnitude, digit⟩
    · rw [text]
      refine .token (by decide) (.advance ?_)
      exact (ensures_number n true ends).bind accepts
    · have number := ensures_number n false ends
      rw [text]
      rw [magnitude] at number ⊢
      refine .token (isDigit_not_space digit) ?_
      split
      next none => cases none
      next same =>
        cases same
        exact absurd digit (by decide)
      next same =>
        cases same
        rw [if_pos (show isDigit (.char d) = true from digit)]
        exact number.bind accepts
  · obtain ⟨solid, -, -, minus, other⟩ := first_of_other among
    exact .of_refuses (refuses_integer solid minus other expected)

theorem consumes_integer (expected : String) : Consumes (integer low high expected) where
  blanks := .settle (.bind .peekToken)
  whole := fun _ _ wellFormed ends => ensures_integer expected wellFormed ends

theorem consumes_natural (bits : Nat) (expected : String) : Consumes (natural bits expected) :=
  (consumes_integer expected).map

end LeaseElection.Json.Reader
