import LeaseElection.Json.Decode

namespace LeaseElection.Json.Reader

open LeaseElection.Text (Glyph)

variable {α β : Type} {r : Reader α} {f : α → Reader β} {text more : List Char} {rest : List Glyph}
  {a : α} {b : β} {c : Char}

/-- A reader yields a value for a text when this follows it. -/
def Reads (r : Reader α) (text : List Char) (rest : List Glyph) (a : α) : Prop :=
  ∀ place, ∃ behind, r ⟨text.map .char ++ rest, place⟩ = (.ok a, ⟨rest, behind⟩)

theorem bind_of_ok {before after : Cursor} (first : r before = (.ok a, after)) :
    (r >>= f) before = f a after := by
  change (match r before with | (result, cursor) => ExceptT.bindCont f result cursor) = _
  rw [first]
  rfl

theorem peek_eq (cursor : Cursor) : peek cursor = (.ok cursor.rest.head?, cursor) := rfl

theorem advance_eq (cursor : Cursor) : advance cursor = (.ok (), cursor.advance) := rfl

namespace Reads

theorem pure : Reads (Pure.pure a) [] rest a := fun place => ⟨place, rfl⟩

theorem bind (first : Reads r text (more.map .char ++ rest) a) (second : Reads (f a) more rest b) :
    Reads (r >>= f) (text ++ more) rest b := by
  intro place
  obtain ⟨middle, read⟩ := first place
  obtain ⟨behind, done⟩ := second middle
  refine ⟨behind, ?_⟩
  rw [List.map_append, List.append_assoc, bind_of_ok read, done]

theorem last (first : Reads r text rest a) (second : Reads (f a) [] rest b) :
    Reads (r >>= f) text rest b := by
  rw [← List.append_nil text]
  exact bind first second

theorem look (first : Reads r [] (text.map .char ++ rest) a) (second : Reads (f a) text rest b) :
    Reads (r >>= f) text rest b := bind first second

theorem peek {f : Option Glyph → Reader β} (next : Reads (f (some (.char c))) (c :: text) rest b) :
    Reads (Reader.peek >>= f) (c :: text) rest b := fun place => by
  obtain ⟨behind, done⟩ := next place
  exact ⟨behind, by rw [bind_of_ok (peek_eq _)]; exact done⟩

theorem peekAhead {f : Option Glyph → Reader β}
    (next : Reads (f (text.map Glyph.char ++ rest).head?) text rest b) :
    Reads (Reader.peek >>= f) text rest b := fun place => by
  obtain ⟨behind, done⟩ := next place
  exact ⟨behind, by rw [bind_of_ok (peek_eq _)]; exact done⟩

theorem peekRest {f : Option Glyph → Reader β} (next : Reads (f rest.head?) [] rest b) :
    Reads (Reader.peek >>= f) [] rest b := fun place => by
  obtain ⟨behind, done⟩ := next place
  exact ⟨behind, by rw [bind_of_ok (peek_eq _)]; exact done⟩

/-- What a reader does may hang on how much there is left to read. -/
theorem get {f : Cursor → Reader β}
    (next : ∀ place, Reads (f ⟨text.map .char ++ rest, place⟩) text rest b) :
    Reads (MonadState.get >>= f) text rest b := fun place => by
  obtain ⟨behind, done⟩ := next place place
  have got (cursor : Cursor) : (MonadState.get : Reader Cursor) cursor = (.ok cursor, cursor) := rfl
  exact ⟨behind, by rw [bind_of_ok (got _)]; exact done⟩

theorem advance {f : Unit → Reader β} (next : Reads (f ()) text rest b) :
    Reads (Reader.advance >>= f) (c :: text) rest b := fun place => by
  obtain ⟨behind, done⟩ := next (place.after (.char c))
  exact ⟨behind, by rw [bind_of_ok (advance_eq _)]; exact done⟩

theorem settle (reads : Reads r text rest a) : Reads (Reader.settle r) text rest a := fun place => by
  obtain ⟨behind, done⟩ := reads place
  exact ⟨behind, by rw [Reader.settle, done]⟩

theorem closedBy {close : Reader Unit} (reads : Reads r text (more.map .char ++ rest) a)
    (closes : Reads close more rest ()) : Reads (Reader.closedBy r close) (text ++ more) rest a := by
  intro place
  obtain ⟨middle, read⟩ := reads place
  obtain ⟨behind, done⟩ := closes middle
  refine ⟨behind, ?_⟩
  rw [Reader.closedBy, List.map_append, List.append_assoc, read]
  simp only [done]

end Reads

theorem peekToken_eq {cursor : Cursor} (solid : ∀ g ∈ cursor.rest.head?, isSpace g = false) :
    peekToken cursor = (.ok cursor.rest.head?, cursor) := by
  have still : cursor.rest.takeWhile isSpace = [] := by
    cases same : cursor.rest with
    | nil => rfl
    | cons g rest => simp [solid g (by simp [same])]
  have passed : spaces cursor = (.ok (), cursor) := by
    change (Except.ok (), cursor.skip (cursor.rest.takeWhile isSpace).length) = _
    rw [still]
    rfl
  rw [peekToken, bind_of_ok passed, peek_eq]

theorem Reads.token {f : Option Glyph → Reader β} (solid : isSpace (.char c) = false)
    (next : Reads (f (some (.char c))) (c :: text) rest b) :
    Reads (peekToken >>= f) (c :: text) rest b := fun place => by
  obtain ⟨behind, done⟩ := next place
  refine ⟨behind, ?_⟩
  rw [bind_of_ok (peekToken_eq (by simpa using solid))]
  exact done

/-- The same about a token that is left to be read. -/
theorem Reads.tokenRest {f : Option Glyph → Reader β} {g : Glyph} (ahead : rest.head? = some g)
    (solid : isSpace g = false) (next : Reads (f (some g)) [] rest b) :
    Reads (peekToken >>= f) [] rest b := fun place => by
  obtain ⟨behind, done⟩ := next place
  have passed : peekToken ⟨rest, place⟩ = (.ok (some g), ⟨rest, place⟩) := by
    rw [peekToken_eq (by simpa [ahead] using solid), ahead]
  exact ⟨behind, by rw [List.map_nil, List.nil_append, bind_of_ok passed]; exact done⟩

theorem Reads.tokenEnd {f : Option Glyph → Reader β} (next : Reads (f none) [] [] b) :
    Reads (peekToken >>= f) [] [] b := fun place => by
  obtain ⟨behind, done⟩ := next place
  have passed : peekToken ⟨[], place⟩ = (.ok none, ⟨[], place⟩) := peekToken_eq (by simp)
  exact ⟨behind, by rw [List.map_nil, List.nil_append, bind_of_ok passed]; exact done⟩

theorem skip_append (text : List Char) (rest : List Glyph) (place : Place) :
    ∃ behind, Cursor.skip text.length ⟨text.map .char ++ rest, place⟩ = ⟨rest, behind⟩ := by
  induction text generalizing place with
  | nil => exact ⟨place, rfl⟩
  | cons c text ih => exact ih (place.after (.char c))

end LeaseElection.Json.Reader
