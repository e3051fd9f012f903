import LeaseElection.Json.Fault
import LeaseElection.Text.Glyph

namespace LeaseElection.Json

open LeaseElection.Text (Glyph)

def Place.after (p : Place) : Glyph → Place
  | .char '\n' => ⟨p.line + 1, 0⟩
  | g => ⟨p.line, p.column + g.width⟩

def Place.into (p : Place) : Glyph → Place
  | .char '\n' => ⟨p.line + 1, 0⟩
  | _ => ⟨p.line, p.column + 1⟩

def Place.afterBytes : Nat → List Glyph → Place → Option Place
  | 0, _, p => some p
  | _ + 1, [], _ => none
  | n + 1, g :: rest, p =>
    if g.width ≤ n + 1 then Place.afterBytes (n + 1 - g.width) rest (p.after g)
    else some ⟨p.line, p.column + n + 1⟩

/-- What is left to read, and the place reached. -/
structure Cursor where
  rest : List Glyph
  place : Place
  deriving DecidableEq, Repr

def Cursor.start (text : List Glyph) : Cursor := ⟨text, ⟨1, 0⟩⟩

def Cursor.ahead (c : Cursor) : Place :=
  match c.rest with
  | [] => c.place
  | g :: _ => c.place.into g

def Cursor.advance (c : Cursor) : Cursor :=
  match c.rest with
  | [] => c
  | g :: rest => ⟨rest, c.place.after g⟩

def Cursor.skip : Nat → Cursor → Cursor
  | 0, c => c
  | n + 1, c => c.advance.skip n

abbrev Reader (α : Type) := ExceptT Fault (StateM Cursor) α

namespace Reader

def run (r : Reader α) (text : List Glyph) : Except Fault α :=
  (ExceptT.run r (Cursor.start text)).1

def fail (cause : Cause) : Reader α := do
  throw ⟨cause, some (← get).place⟩

def failAhead (cause : Cause) : Reader α := do
  throw ⟨cause, some (← get).ahead⟩

def failData (cause : Cause) : Reader α := throw ⟨cause, none⟩

def settle (r : Reader α) : Reader α := fun c =>
  match r c with
  | (.error ⟨cause, none⟩, after) => (.error ⟨cause, some after.place⟩, after)
  | result => result

/-- Reads a value and its end; the end is looked for after a fault too, whose place it settles. -/
def closedBy (r : Reader α) (close : Reader Unit) : Reader α := fun c =>
  match r c with
  | (.ok a, after) =>
    match close after with
    | (.ok _, behind) => (.ok a, behind)
    | (.error fault, behind) => (.error fault, behind)
  | (.error fault, after) => (.error fault, (close after).2)

def peek : Reader (Option Glyph) := do return (← get).rest.head?

def advance : Reader Unit := modify Cursor.advance

def isSpace : Glyph → Bool
  | .char c => c = ' ' || c = '\n' || c = '\t' || c = '\r'
  | .stray _ => false

def spaces : Reader Unit :=
  modify fun c => c.skip (c.rest.takeWhile isSpace).length

def peekToken : Reader (Option Glyph) := do
  spaces
  peek

end Reader

end LeaseElection.Json
