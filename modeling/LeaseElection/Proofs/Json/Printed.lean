import LeaseElection.Proofs.Json.Members

namespace LeaseElection.Json

def noBlanks : Blanks := ⟨[], fun _ among => (List.not_mem_nil among).elim⟩

/-- The digits of a natural number, with a minus in front or not. -/
def DecimalNumber.ofNatural (negative : Bool) (n : Nat) : DecimalNumber where
  negative := negative
  whole := ⟨Decimal.digits n, Decimal.digits_ne_nil n, Decimal.isDigit_of_mem_digits n⟩
  leading := fun _ same => (Decimal.eq_zero_of_digits same).2
  places := none
  exponent := none

theorem DecimalNumber.text_ofNatural (negative : Bool) (n : Nat) :
    (ofNatural negative n).text = (if negative then ['-'] else []) ++ Decimal.digits n := by
  have magnitude : (ofNatural negative n).magnitude = Decimal.digits n := List.append_nil _
  cases negative with
  | true => rw [text, magnitude]; rfl
  | false => rw [text, magnitude]; rfl

theorem printElements_eq (es : List Value) :
    Value.printElements es = commaSeparated (es.map Value.print) := by
  induction es with
  | nil => rfl
  | cons e es ih =>
      cases es with
      | nil =>
          rw [Value.printElements, List.map_cons, commaSeparated_cons]
          simp
      | cons next es =>
          rw [Value.printElements, ih, List.map_cons, List.map_cons, commaSeparated_cons,
            commaSeparated_cons, List.map_cons, List.flatMap_cons]
          · rfl
          · simp

theorem arrayText_elements (es : List Value) :
    arrayText (es.map fun e => ⟨noBlanks, e.print, noBlanks⟩) noBlanks =
      (Value.array es).print := by
  simp [arrayText, Value.print, printElements_eq, Element.text, noBlanks, Function.comp_def]

def memberText (m : String × Value) : List Char := printString m.1 ++ ':' :: m.2.print

theorem printMembers_eq (ms : List (String × Value)) :
    Value.printMembers ms = commaSeparated (ms.map memberText) := by
  induction ms with
  | nil => rfl
  | cons m ms ih =>
      cases ms with
      | nil =>
          rw [Value.printMembers, List.map_cons, commaSeparated_cons]
          simp [memberText]
      | cons next ms =>
          rw [Value.printMembers, ih, List.map_cons, List.map_cons, commaSeparated_cons,
            commaSeparated_cons, List.map_cons, List.flatMap_cons]
          · simp [memberText]
          · simp

/-- Members with these names and values, written as the printer does. -/
theorem exists_members (ms : List (String × Value)) : ∃ members : List Member,
    members.map Member.text = ms.map memberText ∧
      members.map (fun m => (m.name?, m.value)) = ms.map (fun m => (some m.1, m.2.print)) := by
  induction ms with
  | nil => exact ⟨[], rfl, rfl⟩
  | cons m ms ih =>
      obtain ⟨members, texts, parts⟩ := ih
      obtain ⟨strokes, text, spoken⟩ := Reader.spells_printString m.1
      let first : Member := ⟨⟨noBlanks, m.2.print, noBlanks⟩, noBlanks, strokes, noBlanks⟩
      have firstText : first.text = memberText m := by
        simp [first, Member.text, Member.key, Element.text, noBlanks, memberText, text]
      have firstName : first.name? = some m.1 := Reader.named_of_spoken spoken
      refine ⟨first :: members, ?_, ?_⟩
      · rw [List.map_cons, List.map_cons, firstText, texts]
      · rw [List.map_cons, List.map_cons, firstName, parts]

theorem objectText_of_texts {members : List Member} {ms : List (String × Value)}
    (texts : members.map Member.text = ms.map memberText) :
    objectText members noBlanks = (Value.object ms).print := by
  simp [objectText, Value.print, printMembers_eq, texts, noBlanks]

/-- Each member was printed from one of the names and values. -/
theorem exists_source {members : List Member} {ms : List (String × Value)} {m : Member}
    (parts : members.map (fun m => (m.name?, m.value)) = ms.map fun m => (some m.1, m.2.print))
    (among : m ∈ members) :
    ∃ source ∈ ms, m.name? = some source.1 ∧ m.value = source.2.print := by
  have part : (m.name?, m.value) ∈ ms.map fun m => (some m.1, m.2.print) :=
    parts ▸ List.mem_map_of_mem among
  obtain ⟨source, inside, same⟩ := List.mem_map.mp part
  obtain ⟨name, print⟩ := Prod.mk.inj same
  exact ⟨source, inside, name.symm, print.symm⟩

theorem wellFormed_of_parts {members : List Member} {ms : List (String × Value)}
    (parts : members.map (fun m => (m.name?, m.value)) = ms.map fun m => (some m.1, m.2.print))
    (values : ∀ m ∈ ms, WellFormed m.2.print) : ∀ m ∈ members, WellFormed m.value := by
  intro m among
  obtain ⟨source, inside, -, print⟩ := exists_source parts among
  exact print ▸ values source inside

mutual

theorem wellFormed_print : (v : Value) → WellFormed v.print
  | .null => .null
  | .natural n => by
      have number := WellFormed.number (.ofNatural false n)
      rw [DecimalNumber.text_ofNatural] at number
      exact number
  | .integer i => by
      have number := WellFormed.number (.ofNatural (decide (i < 0)) i.natAbs)
      rw [DecimalNumber.text_ofNatural] at number
      simpa [Value.print] using number
  | .string s => by
      obtain ⟨strokes, text, -⟩ := Reader.spells_printString s
      rw [Value.print, text]
      exact .string strokes
  | .array es => by
      have values := wellFormed_elements es
      have written := WellFormed.array (es.map fun e => ⟨noBlanks, e.print, noBlanks⟩) noBlanks (by
        intro element among
        obtain ⟨e, inside, rfl⟩ := List.mem_map.mp among
        exact values e inside)
      rw [← arrayText_elements]
      exact written
  | .object ms => by
      have values := wellFormed_members ms
      obtain ⟨members, texts, parts⟩ := exists_members ms
      have written := WellFormed.object members noBlanks (wellFormed_of_parts parts values)
      rw [← objectText_of_texts texts]
      exact written

theorem wellFormed_elements : (es : List Value) → ∀ e ∈ es, WellFormed e.print
  | [], _, among => (List.not_mem_nil among).elim
  | e :: es, other, among => by
      rcases List.mem_cons.mp among with same | among
      · rw [same]
        exact wellFormed_print e
      · exact wellFormed_elements es other among

theorem wellFormed_members : (ms : List (String × Value)) → ∀ m ∈ ms, WellFormed m.2.print
  | [], _, among => (List.not_mem_nil among).elim
  | (_, v) :: ms, other, among => by
      rcases List.mem_cons.mp among with same | among
      · rw [same]
        exact wellFormed_print v
      · exact wellFormed_members ms other among

end

/-- An object that is printed is a document. -/
theorem exists_document (ms : List (String × Value)) : ∃ d : Document,
    d.text = (Value.object ms).print ∧
      d.members.map (fun m => (m.name?, m.value)) = ms.map fun m => (some m.1, m.2.print) := by
  obtain ⟨members, texts, parts⟩ := exists_members ms
  have values := wellFormed_of_parts parts (wellFormed_members ms)
  refine ⟨⟨noBlanks, members, noBlanks, noBlanks, values⟩, ?_, parts⟩
  rw [Document.text, objectText_of_texts texts]
  simp [noBlanks]

theorem names_of_parts {d : Document} {ms : List (String × Value)}
    (parts : d.members.map (fun m => (m.name?, m.value)) = ms.map fun m => (some m.1, m.2.print)) :
    d.names = ms.map fun m => some m.1 := by
  have names := congrArg (List.map Prod.fst) parts
  rw [List.map_map, List.map_map] at names
  exact names

end LeaseElection.Json
