import LeaseElection.Json.Skip

namespace LeaseElection.Json.Reader

open LeaseElection.Text (Glyph)

/-- Reads whatever stands where a value of another type was expected, and refuses it. Of an array or
object nothing is read. -/
def refuseType (expected : String) : Reader α := settle do
  let refuse (found : Found) : Reader α := failData (.invalidType found expected)
  match ← peek with
  | some (.char 'n') =>
    advance
    word ['u', 'l', 'l']
    refuse .null
  | some (.char 't') =>
    advance
    word ['r', 'u', 'e']
    refuse (.boolean true)
  | some (.char 'f') =>
    advance
    word ['a', 'l', 's', 'e']
    refuse (.boolean false)
  | some (.char '-') =>
    advance
    refuse (← number true).found
  | some (.char '"') =>
    advance
    refuse (.string (← stringBody))
  | some (.char '[') => refuse .sequence
  | some (.char '\x7b') => refuse .map
  | some g => if isDigit g then refuse (← number false).found else failAhead .expectedValue
  | none => failAhead .expectedValue

def stringAs (expected : String) : Reader String := do
  match ← peekToken with
  | none => failAhead .endInValue
  | some (.char '"') =>
    advance
    stringBody
  | some _ => refuseType expected

def string : Reader String := stringAs "a string"

/-- Reads a string and what it says; a complaint about it has its place behind the string. -/
def stringMeaning (expected : String) (meaning : String → Except String α) : Reader α := settle do
  match meaning (← stringAs expected) with
  | .ok a => return a
  | .error reason => failData (.refused reason)

def integer (low high : Int) (expected : String) : Reader Int := settle do
  let check (i : Int) : Reader Int :=
    if low ≤ i ∧ i ≤ high then pure i else failData (.invalidValue (.integer i) expected)
  let accept : Number → Reader Int
    | .natural n => check n
    | .negative i => check i
    | .float text => failData (.invalidType (.float text) expected)
  match ← peekToken with
  | none => failAhead .endInValue
  | some (.char '-') =>
    advance
    accept (← number true)
  | some g => if isDigit g then accept (← number false) else refuseType expected

def natural (bits : Nat) (expected : String) : Reader Nat := do
  return (← integer 0 (Int.pow 2 bits - 1) expected).toNat

def option (r : Reader α) : Reader (Option α) := do
  match ← peekToken with
  | some (.char 'n') =>
    advance
    word ['u', 'l', 'l']
    return none
  | _ => return some (← r)

def null : Reader Unit := do
  match ← peekToken with
  | none => failAhead .endInValue
  | some (.char 'n') =>
    advance
    word ['u', 'l', 'l']
  | some _ => refuseType "unit"

def variantName (choices : List (String × α)) : Reader α := settle do
  let name ← stringAs "variant identifier"
  match choices.lookup name with
  | some a => return a
  | none => failData (.unknownVariant name (choices.map Prod.fst))

def colon : Reader Unit := do
  match ← peekToken with
  | some (.char ':') => advance
  | some _ => failAhead .expectedColon
  | none => failAhead .endInObject

/-- Reads a choice: a name, or an object with the name as its only key and `null` as its value. -/
def choice (choices : List (String × α)) : Reader α := do
  match ← peekToken with
  | none => failAhead .endInValue
  | some (.char '"') => variantName choices
  | some (.char '\x7b') =>
    advance
    let a ← variantName choices
    colon
    null
    match ← peekToken with
    | some (.char '\x7d') =>
      advance
      return a
    | some _ => fail .expectedValue
    | none => fail .endInObject
  | some _ => failAhead .expectedValue

def anotherElement (first : Bool) : Reader Bool := do
  match ← peekToken with
  | none => failAhead .endInArray
  | some (.char ']') => return false
  | some g =>
    if first then return true
    else if g = .char ',' then
      advance
      match ← peekToken with
      | some (.char ']') => failAhead .trailingComma
      | some _ => return true
      | none => failAhead .endInValue
    else failAhead .expectedArrayEnd

def arrayEnd : Reader Unit := do
  match ← peekToken with
  | some (.char ']') => advance
  | some (.char ',') =>
    advance
    match ← peekToken with
    | some (.char ']') => failAhead .trailingComma
    | _ => failAhead .trailingCharacters
  | some _ => failAhead .trailingCharacters
  | none => failAhead .endInArray

def elements (r : Reader α) : Nat → Bool → List α → Reader (List α)
  | 0, _, _ => fail .endInArray
  | fuel + 1, first, read => do
    if ← anotherElement first then
      let a ← r
      elements r fuel false (a :: read)
    else return read.reverse

def list (r : Reader α) : Reader (List α) := settle do
  match ← peekToken with
  | none => failAhead .endInValue
  | some (.char '[') =>
    advance
    closedBy (do elements r ((← get).rest.length + 1) true []) arrayEnd
  | some _ => refuseType "a sequence"

/-- A field of a structure whose parts are gathered in a draft. -/
structure Field (δ : Type) where
  name : String
  optional : Bool
  present : δ → Bool
  fill : δ → Reader δ

structure Shape (δ : Type) where
  expected : String
  /-- The structure's name in messages on the length of an array. -/
  expectedLength : String
  fields : List (Field δ)
  /-- Whether keys that are no field's name are refused. -/
  closed : Bool
  empty : δ

namespace Shape

def field? (s : Shape δ) (name : String) : Option (Field δ) :=
  s.fields.find? fun f => f.name = name

def missing? (s : Shape δ) (draft : δ) : Option (Field δ) :=
  s.fields.find? fun f => ¬ f.optional ∧ ¬ f.present draft

end Shape

def anotherMember (first : Bool) : Reader Bool := do
  match ← peekToken with
  | none => failAhead .endInObject
  | some (.char '\x7d') => return false
  | some g =>
    if first then
      if g = .char '"' then return true else failAhead .keyNotString
    else if g = .char ',' then
      advance
      match ← peekToken with
      | some (.char '"') => return true
      | some (.char '\x7d') => failAhead .trailingComma
      | some _ => failAhead .keyNotString
      | none => failAhead .endInValue
    else failAhead .expectedObjectEnd

def objectEnd : Reader Unit := do
  match ← peekToken with
  | some (.char '\x7d') => advance
  | some (.char ',') => failAhead .trailingComma
  | some _ => failAhead .trailingCharacters
  | none => failAhead .endInObject

def member (s : Shape δ) (draft : δ) : Reader δ := do
  advance
  let name ← stringBody
  match s.field? name with
  | some field =>
    if field.present draft then failData (.duplicateField name)
    else
      colon
      field.fill draft
  | none =>
    if s.closed then failData (.unknownField name (s.fields.map Field.name))
    else
      colon
      skipValue
      return draft

def members (s : Shape δ) : Nat → Bool → δ → Reader δ
  | 0, _, _ => fail .endInObject
  | fuel + 1, first, draft => do
    if ← anotherMember first then
      members s fuel false (← member s draft)
    else
      match s.missing? draft with
      | some field => failData (.missingField field.name)
      | none => return draft

/-- Reads fields in order from an array into a draft; those that may be left out may be missing at
the end. -/
def positional (s : Shape δ) : List (Field δ) → Nat → δ → Reader δ
  | [], _, draft => return draft
  | field :: more, index, draft => do
    if ← anotherElement (index = 0) then
      positional s more (index + 1) (← field.fill draft)
    else if field.optional then positional s more (index + 1) draft
    else failData (.invalidLength index s.expectedLength)

def structure? (s : Shape δ) (finish : δ → Except String α) : Reader α := settle do
  let finish (draft : δ) : Reader α :=
    match finish draft with
    | .ok a => pure a
    | .error reason => failData (.refused reason)
  match ← peekToken with
  | none => failAhead .endInValue
  | some (.char '\x7b') =>
    advance
    closedBy (do finish (← members s ((← get).rest.length + 1) true s.empty)) objectEnd
  | some (.char '[') =>
    advance
    closedBy (do finish (← positional s s.fields 0 s.empty)) arrayEnd
  | some _ => refuseType s.expected

def whole (r : Reader α) : Reader α := do
  let a ← r
  match ← peekToken with
  | none => return a
  | some _ => failAhead .trailingCharacters

def decode (r : Reader α) (text : List Glyph) : Except Fault α := run (whole r) text

end LeaseElection.Json.Reader
