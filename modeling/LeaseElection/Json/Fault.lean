import LeaseElection.Text.Basic
import LeaseElection.Text.Decimal

namespace LeaseElection.Json

/-- A place in a text: the line, from one, and the number of bytes read of that line. -/
structure Place where
  line : Nat
  column : Nat
  deriving DecidableEq, Repr

/-- What stood where another type of value was expected. -/
inductive Found where
  | null
  | boolean (value : Bool)
  | integer (value : Int)
  | float (text : String)
  | string (value : String)
  | sequence
  | map
  deriving DecidableEq, Repr

def Found.text : Found → String
  | .null => "null"
  | .boolean true => "boolean `true`"
  | .boolean false => "boolean `false`"
  | .integer value => "integer `" ++ Decimal.signedText value ++ "`"
  | .float text => "floating point `" ++ text ++ "`"
  | .string value => "string " ++ Text.quoted value
  | .sequence => "sequence"
  | .map => "map"

inductive Cause where
  | endInString
  | endInValue
  | endInObject
  | endInArray
  | controlCharacter
  | expectedColon
  | expectedArrayEnd
  | expectedObjectEnd
  | expectedIdent
  | expectedValue
  | invalidEscape
  | invalidNumber
  | numberOutOfRange
  | invalidCodePoint
  | keyNotString
  | loneSurrogate
  | trailingComma
  | trailingCharacters
  | endOfHexEscape
  | invalidType (found : Found) (expected : String)
  | invalidValue (found : Found) (expected : String)
  | invalidLength (length : Nat) (expected : String)
  | missingField (name : String)
  | duplicateField (name : String)
  | unknownField (name : String) (known : List String)
  | unknownVariant (name : String) (known : List String)
  | refused (reason : String)
  deriving DecidableEq, Repr

def choiceText : List String → String
  | [] => "nothing"
  | [a] => "`" ++ a ++ "`"
  | [a, b] => "`" ++ a ++ "` or `" ++ b ++ "`"
  | more => "one of " ++ ", ".intercalate (more.map fun a => "`" ++ a ++ "`")

def Cause.message : Cause → String
  | .endInString => "EOF while parsing a string"
  | .endInValue => "EOF while parsing a value"
  | .endInObject => "EOF while parsing an object"
  | .endInArray => "EOF while parsing a list"
  | .controlCharacter => "control character (\\u0000-\\u001F) found while parsing a string"
  | .expectedColon => "expected `:`"
  | .expectedArrayEnd => "expected `,` or `]`"
  | .expectedObjectEnd => "expected `,` or `\x7d`"
  | .expectedIdent => "expected ident"
  | .expectedValue => "expected value"
  | .invalidEscape => "invalid escape"
  | .invalidNumber => "invalid number"
  | .numberOutOfRange => "number out of range"
  | .invalidCodePoint => "invalid unicode code point"
  | .keyNotString => "key must be a string"
  | .loneSurrogate => "lone leading surrogate in hex escape"
  | .trailingComma => "trailing comma"
  | .trailingCharacters => "trailing characters"
  | .endOfHexEscape => "unexpected end of hex escape"
  | .invalidType found expected => "invalid type: " ++ found.text ++ ", expected " ++ expected
  | .invalidValue found expected => "invalid value: " ++ found.text ++ ", expected " ++ expected
  | .invalidLength length expected =>
      "invalid length " ++ Decimal.text length ++ ", expected " ++ expected
  | .missingField name => "missing field `" ++ name ++ "`"
  | .duplicateField name => "duplicate field `" ++ name ++ "`"
  | .unknownField name known =>
      if known.isEmpty then "unknown field `" ++ name ++ "`, there are no fields"
      else "unknown field `" ++ name ++ "`, expected " ++ choiceText known
  | .unknownVariant name known =>
      if known.isEmpty then "unknown variant `" ++ name ++ "`, there are no variants"
      else "unknown variant `" ++ name ++ "`, expected " ++ choiceText known
  | .refused reason => reason

/-- A fault and its place, once that is known. -/
structure Fault where
  cause : Cause
  place : Option Place
  deriving DecidableEq, Repr

def Fault.message (f : Fault) : String :=
  match f.place with
  | none => f.cause.message
  | some place => f.cause.message ++ " at line " ++ Decimal.text place.line ++ " column "
      ++ Decimal.text place.column

end LeaseElection.Json
