import LeaseElection.Proofs.Json.Printed

namespace LeaseElection.Json.Reader

open LeaseElection.Text (Glyph)

variable {α : Type} {r : Reader α} {rest : List Glyph} {a : α} {c : Char} {text : List Char}

theorem takesBlanks_option (r : Reader α) : TakesBlanks (option r) := .bind .peekToken

theorem reads_none : Reads (option r) Value.null.print rest none := by
  unfold option
  exact .token (by decide) (.advance (.last (reads_word _) .pure))

theorem reads_some (solid : isSpace (.char c) = false) (present : c ≠ 'n')
    (reads : Reads r (c :: text) rest a) : Reads (option r) (c :: text) rest (some a) := by
  unfold option
  apply Reads.token solid
  split
  next same =>
    cases same
    exact absurd rfl present
  next => exact .last reads .pure

variable {choices : List (String × α)} {name : String}

theorem takesBlanks_choice (choices : List (String × α)) : TakesBlanks (choice choices) :=
  .bind .peekToken

theorem reads_choice (spells : Spells text name) (listed : choices.lookup name = some a) :
    Reads (choice choices) text rest a := by
  have reads : Reads (variantName choices) text rest a := by
    unfold variantName
    refine .settle (.last (reads_stringAs_of_spells "variant identifier" spells) ?_)
    rw [listed]
    exact .pure
  obtain ⟨strokes, rfl, -⟩ := spells
  unfold choice
  exact .token (by decide) reads

theorem takesBlanks_list (r : Reader α) : TakesBlanks (list r) := .settle (.bind .peekToken)

theorem reads_arrayEnd : Reads arrayEnd [']'] rest () := by
  unfold arrayEnd
  exact .token (by decide) (.last (f := fun _ => pure ()) (.advance .pure) .pure)

/-- An element follows, behind a comma unless it is the first. -/
theorem reads_nextElement (first : Bool) (v : Value) : Reads (anotherElement first)
    (if first then [] else [',']) (v.print.map .char ++ rest) true := by
  obtain ⟨c, more, text, solid, closes⟩ := first_of_value (wellFormed_print v)
  have other : (Glyph.char c) ≠ .char ']' := by simpa using closes
  unfold anotherElement
  rw [text]
  cases first with
  | true =>
      refine .tokenRest rfl solid ?_
      split
      next none => cases none
      next same => exact absurd (Option.some.inj same) other
      next => exact .pure
  | false =>
      refine .token (by decide) (.advance (.tokenRest rfl solid ?_))
      split
      next same => exact absurd (Option.some.inj same) other
      next => exact .pure
      next none => cases none

theorem reads_noElement (first : Bool) :
    Reads (anotherElement first) [] (.char ']' :: rest) false := by
  unfold anotherElement
  exact .tokenRest rfl (by decide) .pure

variable {json : α → Value} {read all : List α} {first : Bool}

/-- How elements are printed, with a comma before each but perhaps the first. -/
def rowPrint (json : α → Value) : Bool → List α → List Char
  | _, [] => []
  | first, a :: all => (if first then [] else [',']) ++ ((json a).print ++ rowPrint json false all)

theorem rowPrint_false (json : α → Value) (all : List α) :
    rowPrint json false all = all.flatMap fun a => ',' :: (json a).print := by
  induction all with
  | nil => rfl
  | cons a all ih => rw [rowPrint, ih, List.flatMap_cons]; rfl

theorem printElements_map (json : α → Value) (all : List α) :
    Value.printElements (all.map json) = rowPrint json true all := by
  cases all with
  | nil => rfl
  | cons a all =>
      rw [printElements_eq, List.map_cons, List.map_cons, commaSeparated_cons, rowPrint,
        rowPrint_false, if_pos rfl, List.nil_append, List.map_map, List.flatMap_map]
      rfl

theorem endsNumber_rowPrint (json : α → Value) (all : List α) (rest : List Glyph) :
    EndsNumber ((rowPrint json false all).map .char ++ (.char ']' :: rest)) := by
  cases all with
  | nil => exact .cons (by decide) _
  | cons a all => exact .cons (by decide) _

theorem length_le_rowPrint (json : α → Value) (first : Bool) (all : List α) :
    all.length ≤ (rowPrint json first all).length := by
  induction all generalizing first with
  | nil => exact Nat.zero_le _
  | cons a all ih =>
      obtain ⟨c, more, text, -⟩ := first_of_value (wellFormed_print (json a))
      have others := ih false
      rw [rowPrint, text]
      simp only [List.length_append, List.length_cons]
      omega

theorem reads_elements (each : ∀ a ∈ all, ∀ rest, EndsNumber rest →
    Reads r (json a).print rest a) {fuel : Nat} (enough : all.length < fuel) :
    Reads (elements r fuel first read) (rowPrint json first all) (.char ']' :: rest)
      (read.reverse ++ all) := by
  induction all generalizing first read fuel with
  | nil =>
      obtain ⟨fuel, rfl⟩ := Nat.exists_eq_add_one_of_ne_zero (Nat.ne_zero_of_lt enough)
      rw [elements, List.append_nil]
      exact .last (reads_noElement first) .pure
  | cons a all ih =>
      obtain ⟨fuel, rfl⟩ := Nat.exists_eq_add_one_of_ne_zero (Nat.ne_zero_of_lt enough)
      have own : Reads r (json a).print _ a :=
        each a List.mem_cons_self _ (endsNumber_rowPrint json all rest)
      have later : Reads (elements r fuel false (a :: read)) (rowPrint json false all)
          (.char ']' :: rest) ((a :: read).reverse ++ all) :=
        ih (fun a among => each a (List.mem_cons_of_mem _ among)) (Nat.lt_of_succ_lt_succ enough)
      rw [List.reverse_cons, List.append_assoc, List.singleton_append] at later
      have both : Reads (r >>= fun a => elements r fuel false (a :: read))
          ((json a).print ++ rowPrint json false all) (.char ']' :: rest)
          (read.reverse ++ a :: all) :=
        .bind own later
      rw [elements, rowPrint]
      refine .bind (a := true) ?_ both
      rw [List.map_append, List.append_assoc]
      exact reads_nextElement first (json a)

theorem reads_list (each : ∀ a ∈ all, ∀ rest, EndsNumber rest → Reads r (json a).print rest a) :
    Reads (list r) (Value.array (all.map json)).print rest all := by
  have enough (place : Place) : all.length <
      (Cursor.mk ((rowPrint json true all).map .char ++ .char ']' :: rest)
        place).rest.length + 1 := by
    have length := length_le_rowPrint json true all
    simp only [List.length_append, List.length_map]
    omega
  unfold list
  rw [Value.print, printElements_map]
  refine .settle (.token (by decide) (.advance (.closedBy (.get fun place => ?_) reads_arrayEnd)))
  exact reads_elements each (enough place)

end LeaseElection.Json.Reader
