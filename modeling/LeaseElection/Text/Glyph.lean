/-!
# Text that may be damaged

Bytes that claim to be UTF-8 text, read as a row of glyphs: a character where a complete encoding
stands, and a stray byte where none does. Every byte below 0x80 is a character of its own, so a
damaged stretch never swallows the delimiters around it.
-/
namespace LeaseElection.Text

/-- One unit of text that may be damaged. -/
inductive Glyph where
  | char (c : Char)
  | stray (byte : UInt8)
  deriving DecidableEq, Repr

def Glyph.width : Glyph → Nat
  | .char c => c.utf8Size
  | .stray _ => 1

def Glyph.char? : Glyph → Option Char
  | .char c => some c
  | .stray _ => none

def glyphs (s : String) : List Glyph := s.toList.map .char

def isTail (b : UInt8) : Bool := 0x80 ≤ b && b ≤ 0xBF

/-- The character at the front of the bytes and the number of bytes it takes, if a complete
encoding of a character stands there. -/
def firstChar? : List UInt8 → Option (Char × Nat)
  | [] => none
  | a :: rest =>
    let tails (count low high : Nat) : Option (List Nat) :=
      let taken := rest.take count
      match taken with
      | [] => none
      | b :: _ =>
        if taken.length = count ∧ taken.all isTail ∧ low ≤ b.toNat ∧ b.toNat ≤ high then
          some (taken.map (fun t => t.toNat - 0x80))
        else none
    let build (lead : Nat) (ts : List Nat) : Char :=
      Char.ofNat (ts.foldl (fun n t => 64 * n + t) lead)
    let several (count lead low high : Nat) : Option (Char × Nat) :=
      (tails count low high).map fun ts => (build lead ts, count + 1)
    if a < 0x80 then some (Char.ofNat a.toNat, 1)
    else if 0xC2 ≤ a ∧ a ≤ 0xDF then several 1 (a.toNat - 0xC0) 0x80 0xBF
    else if a = 0xE0 then several 2 0 0xA0 0xBF
    else if a = 0xED then several 2 0xD 0x80 0x9F
    else if 0xE1 ≤ a ∧ a ≤ 0xEF then several 2 (a.toNat - 0xE0) 0x80 0xBF
    else if a = 0xF0 then several 3 0 0x90 0xBF
    else if 0xF1 ≤ a ∧ a ≤ 0xF3 then several 3 (a.toNat - 0xF0) 0x80 0xBF
    else if a = 0xF4 then several 3 4 0x80 0x8F
    else none

/-- Reads bytes as glyphs; the first argument counts the bytes that the glyph before still covers. -/
def glyphsOfBytesFrom : Nat → List UInt8 → List Glyph
  | _, [] => []
  | covered + 1, _ :: rest => glyphsOfBytesFrom covered rest
  | 0, b :: rest =>
    match firstChar? (b :: rest) with
    | some (c, width) => .char c :: glyphsOfBytesFrom (width - 1) rest
    | none => .stray b :: glyphsOfBytesFrom 0 rest

def glyphsOfBytes (bytes : List UInt8) : List Glyph := glyphsOfBytesFrom 0 bytes

def ofBytes? (bytes : List UInt8) : Option String :=
  ((glyphsOfBytes bytes).mapM Glyph.char?).map String.ofList

end LeaseElection.Text
