import LeaseElection.Json.Cursor
import LeaseElection.Text.Binary64

namespace LeaseElection.Json

open LeaseElection.Text (Glyph)

namespace Reader

def isDigit : Glyph → Bool
  | .char c => c.isDigit
  | .stray _ => false

def word : List Char → Reader Unit
  | [] => pure ()
  | expected :: more => do
    match ← peek with
    | none => fail .endInValue
    | some g =>
      if g = .char expected then
        advance
        word more
      else failAhead .expectedIdent

/-- A number: an integer of at most 64 bits, or the text of a double. -/
inductive Number where
  | natural (value : Nat)
  | negative (value : Int)
  | float (text : String)
  deriving DecidableEq, Repr

def Number.found : Number → Found
  | .natural value => .integer value
  | .negative value => .integer value
  | .float text => .float text

def digits : Reader (List Char) := fun c =>
  let ds := c.rest.takeWhile isDigit
  (.ok (ds.filterMap Glyph.char?), c.skip ds.length)

def float (negative : Bool) (significand : Nat) (exponent : Int) : Reader Number :=
  match Binary64.ofDecimal? significand exponent with
  | some x => pure (.float (x.text negative))
  | none => fail .numberOutOfRange

/-- Reads as many digits as a number below 2^64 can take; of the digits beyond it only the count. -/
def accumulate : Nat → List Char → Nat × Nat
  | n, [] => (n, 0)
  | n, d :: more =>
    if UInt64.size ≤ Decimal.append n d then (n, more.length + 1)
    else accumulate (Decimal.append n d) more

/-- Reads the digits of an exponent up to the first that takes it beyond 31 bits. -/
def exponentDigits : Nat → Nat → Reader (Option Nat)
  | 0, n => pure (some n)
  | fuel + 1, n => do
    match ← peek with
    | some (.char d) =>
      if d.isDigit then
        advance
        if 2147483648 ≤ Decimal.append n d then return none
        else exponentDigits fuel (Decimal.append n d)
      else return some n
    | _ => return some n

def exponent (negative : Bool) (significand : Nat) (start : Int) : Reader Number := do
  advance
  let down ← do
    match ← peek with
    | some (.char '+') => advance; pure false
    | some (.char '-') => advance; pure true
    | _ => pure false
  match ← peek with
  | none => fail .endInValue
  | some (.char d) =>
    if d.isDigit then
      advance
      match ← exponentDigits (← get).rest.length (Decimal.append 0 d) with
      | some e => float negative significand (if down then start - e else start + e)
      | none =>
        if significand ≠ 0 ∧ ¬ down then fail .numberOutOfRange
        else
          let _ ← digits
          return .float (Binary64.zero.text negative)
    else failAhead .invalidNumber
  | some (.stray _) => failAhead .invalidNumber

def decimalPlaces (negative : Bool) (significand : Nat) (start : Int) : Reader Number := do
  advance
  let places ← digits
  if places.isEmpty then
    match ← peek with
    | some _ => failAhead .invalidNumber
    | none => fail .endInValue
  let (significand, dropped) := accumulate significand places
  let start := start - (places.length - dropped : Nat)
  match ← peek with
  | some (.char 'e') | some (.char 'E') => exponent negative significand start
  | _ => float negative significand start

def number (negative : Bool) : Reader Number := do
  match ← peek with
  | none => fail .endInValue
  | some (.char '0') =>
    advance
    if (← peek).any isDigit then failAhead .invalidNumber
  | some (.char c) => if ¬ c.isDigit then failAhead .invalidNumber
  | some (.stray _) => failAhead .invalidNumber
  let (significand, dropped) := accumulate 0 (← digits)
  match ← peek with
  | some (.char '.') => decimalPlaces negative significand dropped
  | some (.char 'e') | some (.char 'E') => exponent negative significand dropped
  | _ =>
    if dropped ≠ 0 then float negative significand dropped
    else if ¬ negative then return .natural significand
    else if significand = 0 ∨ 9223372036854775808 < significand then float true significand 0
    else return .negative (-(significand : Int))

def hexValue? (c : Char) : Option Nat :=
  if '0' ≤ c ∧ c ≤ '9' then some (c.toNat - 48)
  else if 'a' ≤ c ∧ c ≤ 'f' then some (c.toNat - 87)
  else if 'A' ≤ c ∧ c ≤ 'F' then some (c.toNat - 55)
  else none

def hexValue4? : List Glyph → Option Nat
  | [.char a, .char b, .char c, .char d] => do
    some (((← hexValue? a) * 16 + (← hexValue? b)) * 256 + ((← hexValue? c) * 16 + (← hexValue? d)))
  | _ => none

def hexEscape : Reader Nat := do
  let c ← get
  match hexValue4? (c.rest.take 4) with
  | some n =>
    set (c.skip 4)
    return n
  | none =>
    match Place.afterBytes 4 c.rest c.place with
    | some place => throw ⟨.invalidEscape, some place⟩
    | none =>
      set (c.skip c.rest.length)
      fail .endInString

def simpleEscape? : Char → Option Char
  | '"' => some '"'
  | '\\' => some '\\'
  | '/' => some '/'
  | 'b' => some '\x08'
  | 'f' => some '\x0c'
  | 'n' => some '\n'
  | 'r' => some '\r'
  | 't' => some '\t'
  | _ => none

def isHighSurrogate (n : Nat) : Bool := 0xD800 ≤ n && n ≤ 0xDBFF

def isLowSurrogate (n : Nat) : Bool := 0xDC00 ≤ n && n ≤ 0xDFFF

/-- Passes over a character that has to be there in the middle of a surrogate pair. -/
def pairGlyph (expected : Char) : Reader Unit := do
  match ← peek with
  | none => fail .endInString
  | some g => if g = .char expected then advance else failAhead .endOfHexEscape

def escape : Reader Char := do
  match ← peek with
  | none => fail .endInString
  | some (.stray _) => failAhead .invalidEscape
  | some (.char 'u') =>
    advance
    let n ← hexEscape
    if isLowSurrogate n then fail .loneSurrogate
    else if isHighSurrogate n then
      pairGlyph '\\'
      pairGlyph 'u'
      let m ← hexEscape
      if isLowSurrogate m then
        return Char.ofNat ((n - 0xD800) * 0x400 + (m - 0xDC00) + 0x10000)
      else fail .loneSurrogate
    else return Char.ofNat n
  | some (.char c) =>
    match simpleEscape? c with
    | some d =>
      advance
      return d
    | none => failAhead .invalidEscape

/-- One item of a string: a character, a stray byte, or the closing quote. -/
inductive Item where
  | char (c : Char)
  | stray (place : Place)
  | close

def stringItem : Reader Item := do
  match ← peek with
  | none => fail .endInString
  | some (.stray _) =>
    let place := (← get).ahead
    advance
    return .stray place
  | some (.char '"') =>
    advance
    return .close
  | some (.char '\\') =>
    advance
    return .char (← escape)
  | some (.char c) =>
    if c.toNat < 0x20 then failAhead .controlCharacter
    else
      advance
      return .char c

/-- Reads a string up to its closing quote, given what was read of it and the place of the first
stray byte. -/
def stringItems : Nat → List Char → Option Place → Reader String
  | 0, _, _ => fail .endInString
  | fuel + 1, read, damage => do
    match ← stringItem with
    | .char c => stringItems fuel (c :: read) damage
    | .stray place => stringItems fuel read (damage <|> some place)
    | .close =>
      match damage with
      | some place => throw ⟨.invalidCodePoint, some place⟩
      | none => return String.ofList read.reverse

def stringBody : Reader String := do stringItems ((← get).rest.length + 1) [] none

end Reader

end LeaseElection.Json
