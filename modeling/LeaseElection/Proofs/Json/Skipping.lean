import LeaseElection.Proofs.Json.Values

namespace LeaseElection.Json.Reader

open LeaseElection.Text (Glyph)

/-- So many tokens are passed over from one task to another. -/
inductive Passes : Nat → SkipTask → List Char → List Glyph → SkipTask → Prop
  | done {task : SkipTask} {rest : List Glyph} : Passes 0 task [] rest task
  | step {n : Nat} {task mid next : SkipTask} {text more : List Char} {rest : List Glyph}
      (first : Reads (skipStep task) text (more.map .char ++ rest) (some mid))
      (others : Passes n mid more rest next) : Passes (n + 1) task (text ++ more) rest next

/-- The value is passed over wherever it stands, in at most two steps for each of its characters. -/
def Skips (value : List Char) : Prop := ∀ around rest, EndsNumber rest →
  ∃ n, n + 1 ≤ 2 * value.length ∧ Passes (n + 1) (.value around) value rest (.rest true around)

def opening : Enclosing → Char
  | .array => '['
  | .object => '\x7b'

def closing : Enclosing → Char
  | .array => ']'
  | .object => '\x7d'

/-- What may stand before the blanks and the value of an item. -/
def Leads : Enclosing → List Char → Prop
  | .array, key => key = []
  | .object, key => ∃ m : Member, key = m.key

/-- An item of an array or object, with what stands before its blanks and value. -/
structure Part extends Element where
  key : List Char

namespace Part

def text (p : Part) : List Char := p.key ++ p.toElement.text

structure Sound (inner : Enclosing) (p : Part) : Prop where
  leads : Leads inner p.key
  wellFormed : WellFormed p.value
  skips : Skips p.value

end Part

/-- What follows an item: the later items and the closing bracket. -/
def tailText (inner : Enclosing) (parts : List Part) (inside : Blanks) : List Char :=
  parts.flatMap (fun p => ',' :: p.text) ++ (inside.val ++ [closing inner])

variable {rest : List Glyph} {text more gap : List Char} {task mid next : SkipTask}
  {around : List Enclosing} {inner : Enclosing} {n m : Nat}

namespace Passes

theorem one (first : Reads (skipStep task) text rest (some next)) :
    Passes 1 task text rest next := by
  rw [← List.append_nil text]
  exact .step first .done

theorem trans (first : Passes n task text (more.map .char ++ rest) mid)
    (second : Passes m mid more rest next) : Passes (n + m) task (text ++ more) rest next := by
  generalize middle : more.map Glyph.char ++ rest = between at first
  induction first with
  | done =>
      rw [Nat.zero_add]
      exact second
  | step token others ih =>
      subst middle
      rw [List.append_assoc, Nat.add_right_comm]
      refine .step ?_ (ih second rfl)
      rw [List.map_append, List.append_assoc]
      exact token

/-- Tokens are passed over with enough fuel for them and for the end. -/
theorem reads {comma : Bool} (passes : Passes n task text rest (.rest comma [])) {fuel : Nat}
    (enough : n < fuel) : Reads (skipAll fuel task) text rest () := by
  generalize final : SkipTask.rest comma [] = last at passes
  induction passes generalizing fuel with
  | done =>
      obtain ⟨fuel, rfl⟩ := Nat.exists_eq_add_one_of_ne_zero (Nat.ne_zero_of_lt enough)
      subst final
      rw [skipAll]
      exact .look .pure .pure
  | step token others ih =>
      obtain ⟨fuel, rfl⟩ := Nat.exists_eq_add_one_of_ne_zero (Nat.ne_zero_of_lt enough)
      rw [skipAll]
      exact .bind token (ih (by omega) final)

end Passes

theorem takesBlanks_skipStep_value : TakesBlanks (skipStep (.value around)) := .bind .peekToken

theorem takesBlanks_skipStep_rest {comma : Bool} :
    TakesBlanks (skipStep (.rest comma (inner :: around))) := .bind .peekToken

theorem Passes.blank (takes : TakesBlanks (skipStep task)) (blank : IsBlank gap)
    (passes : Passes (n + 1) task text rest next) : Passes (n + 1) task (gap ++ text) rest next := by
  cases passes with
  | step first others =>
      rw [← List.append_assoc]
      exact .step (takes.reads blank first) others

theorem reads_word (cs : List Char) : Reads (word cs) cs rest () := by
  induction cs with
  | nil => exact .pure
  | cons c cs ih =>
      rw [word]
      refine .peek ?_
      dsimp only
      rw [if_pos rfl]
      exact .advance ih

theorem reads_skippedNumber (n : DecimalNumber) (ends : EndsNumber rest) :
    Reads (skipStep (.value around)) n.text rest (some (.rest true around)) := by
  have magnitude := reads_skipNumber n ends
  rcases n.text_cases with text | ⟨text, d, more, first, digit⟩
  · rw [text]
    exact .token (by decide) (.advance (.last magnitude .pure))
  · rw [text]
    rw [first] at magnitude ⊢
    unfold skipStep
    refine .token (isDigit_not_space digit) ?_
    split
    next none => cases none
    iterate 7
      next same =>
        cases same
        exact absurd digit (by decide)
    next same =>
      cases same
      rw [if_pos (show isDigit (.char d) = true from digit)]
      exact .last magnitude .pure

theorem reads_skippedString (strokes : List Stroke) :
    Reads (skipStep (.value around)) (quoted strokes) rest (some (.rest true around)) :=
  .token (by decide) (.advance (.last (reads_skipString strokes) .pure))

theorem reads_opening (inner : Enclosing) (around : List Enclosing) :
    Reads (skipStep (.value around)) [opening inner] rest
      (some (.rest false (inner :: around))) := by
  cases inner with
  | array => exact .token (by decide) (.advance .pure)
  | object => exact .token (by decide) (.advance .pure)

theorem reads_closing (inner : Enclosing) (comma : Bool) (around : List Enclosing) :
    Reads (skipStep (.rest comma (inner :: around))) [closing inner] rest
      (some (.rest true around)) := by
  cases inner with
  | array =>
      rw [closing]
      refine .token (by decide) ?_
      dsimp only
      rw [if_neg (by simp), if_pos rfl]
      exact .advance .pure
  | object =>
      rw [closing]
      refine .token (by decide) ?_
      dsimp only
      rw [if_neg (by simp), if_pos rfl]
      exact .advance .pure

theorem takesBlanks_skipKey : TakesBlanks skipKey := .bind .peekToken

theorem reads_skipKey (name : List Stroke) (blank : IsBlank gap) :
    Reads skipKey (quoted name ++ (gap ++ [':'])) rest () := by
  unfold skipKey
  extract_lets afterQuote
  have colon : Reads (afterQuote ())
      (name.flatMap Stroke.text ++ ['"'] ++ (gap ++ [':'])) rest () := by
    refine .bind (reads_skipString name) (TakesBlanks.reads (.bind .peekToken) blank ?_)
    exact .token (by decide) (.last (f := fun _ => pure ()) (.advance .pure) .pure)
  exact .token (by decide) (.advance colon)

theorem reads_comma (around : List Enclosing) :
    Reads (skipStep (.rest true (.array :: around))) [','] rest
      (some (.value (.array :: around))) := by
  refine .token (by decide) ?_
  dsimp only
  rw [if_pos (by simp), if_neg (by decide)]
  exact .advance .pure

theorem reads_commaKey (m : Member) (around : List Enclosing) :
    Reads (skipStep (.rest true (.object :: around))) (',' :: m.key) rest
      (some (.value (.object :: around))) := by
  have key : Reads skipKey m.key rest () :=
    takesBlanks_skipKey.reads m.beforeName.property (reads_skipKey m.name m.beforeColon.property)
  refine .token (by decide) ?_
  dsimp only
  rw [if_pos (by simp), if_pos rfl]
  exact .advance (.last key .pure)

theorem reads_firstKey (m : Member) (around : List Enclosing) :
    Reads (skipStep (.rest false (.object :: around))) m.key rest
      (some (.value (.object :: around))) := by
  have key : Reads skipKey (quoted m.name ++ (m.beforeColon.val ++ [':'])) rest () :=
    reads_skipKey m.name m.beforeColon.property
  refine takesBlanks_skipStep_rest.reads m.beforeName.property (.token (by decide) ?_)
  dsimp only
  rw [if_neg (by simp), if_neg (by simp), if_neg (by decide), if_pos rfl]
  exact .last key .pure

/-- The first element of an array is looked at only. -/
theorem reads_firstElement {value : List Char} (wellFormed : WellFormed value)
    (blank : IsBlank gap) (around : List Enclosing) :
    Reads (skipStep (.rest false (.array :: around))) gap (value.map .char ++ rest)
      (some (.value (.array :: around))) := by
  obtain ⟨c, more, rfl, solid, closes⟩ := first_of_value wellFormed
  rw [← List.append_nil gap]
  refine takesBlanks_skipStep_rest.reads blank (.tokenRest rfl solid ?_)
  dsimp only
  rw [if_neg (by simp), if_neg (by simpa using closes), if_neg (by decide), if_neg (by decide)]
  exact .pure

/-- From what follows an opening bracket or the latest value to the end of the next value. -/
theorem passes_item (comma : Bool) {key value : List Char} (leads : Leads inner key)
    (blank : IsBlank gap) (wellFormed : WellFormed value)
    (passes : Passes (n + 1) (.value (inner :: around)) value rest next) :
    Passes (n + 2) (.rest comma (inner :: around))
      ((if comma then [','] else []) ++ (key ++ (gap ++ value))) rest next := by
  have later := passes.blank takesBlanks_skipStep_value blank
  cases inner with
  | array =>
      obtain rfl := leads
      rw [List.nil_append]
      cases comma with
      | true => exact .step (reads_comma around) later
      | false =>
          rw [if_neg (by decide), List.nil_append]
          exact .step (reads_firstElement wellFormed blank around) passes
  | object =>
      obtain ⟨m, rfl⟩ := leads
      cases comma with
      | true =>
          rw [if_pos rfl, ← List.append_assoc, List.singleton_append]
          exact .step (reads_commaKey m around) later
      | false =>
          rw [if_neg (by decide), List.nil_append]
          exact .step (reads_firstKey m around) later

theorem endsNumber_gap (blank : IsBlank gap) (ends : EndsNumber rest) :
    EndsNumber (gap.map .char ++ rest) := by
  cases gap with
  | nil => exact ends
  | cons c gap =>
      rcases blank c List.mem_cons_self with rfl | rfl | rfl | rfl
      · exact .cons (by decide) _
      · exact .cons (by decide) _
      · exact .cons (by decide) _
      · exact .cons (by decide) _

theorem endsNumber_closing (inner : Enclosing) (rest : List Glyph) :
    EndsNumber (.char (closing inner) :: rest) := by
  cases inner with
  | array => exact .cons (by decide) _
  | object => exact .cons (by decide) _

theorem endsNumber_tailText (parts : List Part) (inside : Blanks) (rest : List Glyph) :
    EndsNumber ((tailText inner parts inside).map .char ++ rest) := by
  cases parts with
  | nil =>
      rw [tailText, List.flatMap_nil, List.nil_append, List.map_append, List.append_assoc]
      exact endsNumber_gap inside.property (endsNumber_closing inner rest)
  | cons part parts => exact .cons (by decide) _

theorem passes_partThen (comma : Bool) {part : Part} (sound : part.Sound inner)
    (blank : IsBlank gap) (ends : EndsNumber (more.map .char ++ rest))
    (later : Passes m (.rest true (inner :: around)) (part.after.val ++ more) rest next) :
    ∃ n ≤ 2 * part.text.length + 1, Passes (n + m) (.rest comma (inner :: around))
      (gap ++ ((if comma then [','] else []) ++ (part.text ++ more))) rest next := by
  obtain ⟨n, few, passes⟩ := sound.skips (inner :: around)
    ((part.after.val ++ more).map .char ++ rest) (by
      rw [List.map_append, List.append_assoc]
      exact endsNumber_gap part.after.property ends)
  have entered := passes_item comma sound.leads part.before.property sound.wellFormed passes
  have shape : gap ++ ((if comma then [','] else []) ++ (part.text ++ more)) =
      (gap ++ ((if comma then [','] else []) ++ (part.key ++ (part.before.val ++ part.value)))) ++
        (part.after.val ++ more) := by
    simp only [Part.text, Element.text, List.append_assoc]
  rw [shape]
  refine ⟨n + 2, ?_, .trans (entered.blank takesBlanks_skipStep_rest blank) later⟩
  simp only [Part.text, Element.text, List.length_append]
  omega

theorem passes_tail {parts : List Part} (sound : ∀ part ∈ parts, part.Sound inner)
    (inside : Blanks) (blank : IsBlank gap) :
    ∃ n ≤ 2 * (tailText inner parts inside).length, Passes n (.rest true (inner :: around))
      (gap ++ tailText inner parts inside) rest (.rest true around) := by
  induction parts generalizing gap with
  | nil =>
      have closes : Reads (skipStep (.rest true (inner :: around))) _ rest _ :=
        takesBlanks_skipStep_rest.reads inside.property (reads_closing inner true around)
      refine ⟨1, ?_, .one (takesBlanks_skipStep_rest.reads blank closes)⟩
      simp only [tailText, List.flatMap_nil, List.nil_append, List.length_append,
        List.length_singleton]
      omega
  | cons part parts ih =>
      obtain ⟨m, few, later⟩ := ih (fun part among => sound part (List.mem_cons_of_mem _ among))
        part.after.property
      obtain ⟨n, count, passes⟩ := passes_partThen true (sound part List.mem_cons_self) blank
        (endsNumber_tailText parts inside rest) later
      have shape : tailText inner (part :: parts) inside =
          [','] ++ (part.text ++ tailText inner parts inside) := by
        simp only [tailText, List.flatMap_cons, List.append_assoc, List.cons_append,
          List.nil_append]
      rw [if_pos rfl, ← shape] at passes
      refine ⟨n + m, ?_, passes⟩
      rw [shape]
      simp only [List.length_append, List.length_singleton]
      omega

def bracketed (inner : Enclosing) (parts : List Part) (inside : Blanks) : List Char :=
  opening inner :: (commaSeparated (parts.map Part.text) ++ (inside.val ++ [closing inner]))

theorem skips_bracketed {parts : List Part} (sound : ∀ part ∈ parts, part.Sound inner)
    (inside : Blanks) : Skips (bracketed inner parts inside) := by
  intro around rest ends
  have opens (rest : List Glyph) : Reads (skipStep (.value around)) [opening inner] rest _ :=
    reads_opening inner around
  cases parts with
  | nil =>
      have closes : Reads (skipStep (.rest false (inner :: around))) _ rest _ :=
        takesBlanks_skipStep_rest.reads inside.property (reads_closing inner false around)
      refine ⟨1, ?_, .step (opens _) (.one closes)⟩
      simp only [bracketed, List.length_cons, List.length_append]
      omega
  | cons part parts =>
      have tail : ∀ part ∈ parts, part.Sound inner :=
        fun part among => sound part (List.mem_cons_of_mem _ among)
      have none : IsBlank [] := fun c among => (List.not_mem_nil among).elim
      obtain ⟨m, few, later⟩ := passes_tail tail inside part.after.property
      obtain ⟨n, count, passes⟩ := passes_partThen false (sound part List.mem_cons_self) none
        (endsNumber_tailText parts inside rest) later
      have shape : bracketed inner (part :: parts) inside =
          [opening inner] ++ (part.text ++ tailText inner parts inside) := by
        simp only [bracketed, tailText, List.map_cons, commaSeparated_cons, List.flatMap_map,
          List.append_assoc, List.singleton_append]
      rw [if_neg (by decide), List.nil_append, List.nil_append] at passes
      rw [shape]
      refine ⟨n + m, ?_, .step (opens _) passes⟩
      simp only [List.length_append, List.length_singleton]
      omega

theorem Skips.of_reads {value : List Char} (nonempty : value ≠ [])
    (reads : ∀ around rest, EndsNumber rest →
      Reads (skipStep (.value around)) value rest (some (.rest true around))) : Skips value := by
  intro around rest ends
  have length := List.length_pos_iff.mpr nonempty
  exact ⟨0, by omega, .one (reads around rest ends)⟩

theorem skips_of_wellFormed {value : List Char} (wellFormed : WellFormed value) : Skips value := by
  induction wellFormed with
  | null =>
      refine .of_reads (by decide) fun around rest ends => ?_
      exact .token (by decide) (.advance (.last (reads_word _) .pure))
  | true =>
      refine .of_reads (by decide) fun around rest ends => ?_
      exact .token (by decide) (.advance (.last (reads_word _) .pure))
  | false =>
      refine .of_reads (by decide) fun around rest ends => ?_
      exact .token (by decide) (.advance (.last (reads_word _) .pure))
  | number n =>
      obtain ⟨c, more, text, -⟩ := first_of_number n
      exact .of_reads (by simp [text]) fun around rest ends => reads_skippedNumber n ends
  | string strokes =>
      exact .of_reads (by simp [quoted]) fun around rest ends => reads_skippedString strokes
  | array elements inside values ih =>
      have sound : ∀ part ∈ elements.map fun e => (⟨e, []⟩ : Part), part.Sound .array := by
        intro part among
        obtain ⟨e, inside, rfl⟩ := List.mem_map.mp among
        exact ⟨rfl, values e inside, ih e inside⟩
      have skips := skips_bracketed sound inside
      rw [bracketed, List.map_map] at skips
      exact skips
  | object members inside values ih =>
      have sound : ∀ part ∈ members.map fun m => (⟨m.toElement, m.key⟩ : Part),
          part.Sound .object := by
        intro part among
        obtain ⟨m, inside, rfl⟩ := List.mem_map.mp among
        exact ⟨⟨m, rfl⟩, values m inside, ih m inside⟩
      have skips := skips_bracketed sound inside
      rw [bracketed, List.map_map] at skips
      exact skips

theorem reads_skipValue {value : List Char} (blank : IsBlank gap) (wellFormed : WellFormed value)
    (ends : EndsNumber rest) : Reads skipValue (gap ++ value) rest () := by
  obtain ⟨n, few, passes⟩ := skips_of_wellFormed wellFormed [] rest ends
  unfold skipValue
  refine .get fun place => (passes.blank takesBlanks_skipStep_value blank).reads ?_
  simp only [List.length_append, List.length_map]
  omega

end LeaseElection.Json.Reader
