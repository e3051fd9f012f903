import LeaseElection.Json.Literal

namespace LeaseElection.Json.Reader

open LeaseElection.Text (Glyph)

def skipEscape : Reader Unit := do
  match ← peek with
  | none => fail .endInString
  | some (.stray _) => failAhead .invalidEscape
  | some (.char 'u') =>
    advance
    let _ ← hexEscape
  | some (.char c) =>
    if (simpleEscape? c).isSome then advance else failAhead .invalidEscape

def skipStringItems : Nat → Reader Unit
  | 0 => fail .endInString
  | fuel + 1 => do
    match ← peek with
    | none => fail .endInString
    | some (.char '"') => advance
    | some (.char '\\') =>
      advance
      skipEscape
      skipStringItems fuel
    | some g =>
      match g with
      | .char c =>
        if c.toNat < 0x20 then fail .controlCharacter
        else
          advance
          skipStringItems fuel
      | .stray _ =>
        advance
        skipStringItems fuel

def skipString : Reader Unit := do skipStringItems ((← get).rest.length + 1)

def skipExponent : Reader Unit := do
  advance
  match ← peek with
  | some (.char '+') | some (.char '-') => advance
  | _ => pure ()
  if (← peek).any isDigit then
    let _ ← digits
  else failAhead .invalidNumber

def skipFraction : Reader Unit := do
  match ← peek with
  | some (.char '.') =>
    advance
    if (← digits).isEmpty then failAhead .invalidNumber
    match ← peek with
    | some (.char 'e') | some (.char 'E') => skipExponent
    | _ => pure ()
  | some (.char 'e') | some (.char 'E') => skipExponent
  | _ => pure ()

def skipNumber : Reader Unit := do
  match ← peek with
  | some (.char '0') =>
    advance
    if (← peek).any isDigit then failAhead .invalidNumber
  | some g =>
    if isDigit g then
      let _ ← digits
    else failAhead .invalidNumber
  | none => failAhead .invalidNumber
  skipFraction

/-- An array or object around what is being skipped. -/
inductive Enclosing where
  | array
  | object
  deriving DecidableEq, Repr

def skipKey : Reader Unit := do
  match ← peekToken with
  | some (.char '"') => advance
  | some _ => failAhead .keyNotString
  | none => failAhead .endInObject
  skipString
  match ← peekToken with
  | some (.char ':') => advance
  | some _ => failAhead .expectedColon
  | none => failAhead .endInObject

/-- What is to be skipped next: a value inside the given enclosings, or what follows the latest value
or opening bracket; `comma` says whether a comma may follow. -/
inductive SkipTask where
  | value (around : List Enclosing)
  | rest (comma : Bool) (around : List Enclosing)

/-- Passes over the next token of a value. Says what is left to do, and nothing at the end. -/
def skipStep : SkipTask → Reader (Option SkipTask)
  | .value around => do
    match ← peekToken with
    | none => failAhead .endInValue
    | some (.char 'n') =>
      advance
      word ['u', 'l', 'l']
      return some (.rest true around)
    | some (.char 't') =>
      advance
      word ['r', 'u', 'e']
      return some (.rest true around)
    | some (.char 'f') =>
      advance
      word ['a', 'l', 's', 'e']
      return some (.rest true around)
    | some (.char '-') =>
      advance
      skipNumber
      return some (.rest true around)
    | some (.char '"') =>
      advance
      skipString
      return some (.rest true around)
    | some (.char '[') =>
      advance
      return some (.rest false (.array :: around))
    | some (.char '\x7b') =>
      advance
      return some (.rest false (.object :: around))
    | some g =>
      if isDigit g then
        skipNumber
        return some (.rest true around)
      else failAhead .expectedValue
  | .rest _ [] => return none
  | .rest comma (inner :: around) => do
    let next ← peekToken
    let close := match inner with | .array => Glyph.char ']' | .object => Glyph.char '\x7d'
    match next with
    | none => failAhead (match inner with | .array => .endInArray | .object => .endInObject)
    | some g =>
      if g = .char ',' ∧ comma then
        advance
        if inner = .object then skipKey
        return some (.value (inner :: around))
      else if g = close then
        advance
        return some (.rest true around)
      else if comma then
        failAhead (match inner with | .array => .expectedArrayEnd | .object => .expectedObjectEnd)
      else
        if inner = .object then skipKey
        return some (.value (inner :: around))

def skipAll : Nat → SkipTask → Reader Unit
  | 0, _ => fail .endInValue
  | fuel + 1, task => do
    match ← skipStep task with
    | some task => skipAll fuel task
    | none => pure ()

def skipValue : Reader Unit := do
  skipAll (2 * (← get).rest.length + 3) (.value [])

end LeaseElection.Json.Reader
