import LeaseElection.Text.Basic
import LeaseElection.Text.Decimal

namespace LeaseElection.Json

def escape (c : Char) : List Char :=
  if c = '"' then ['\\', '"']
  else if c = '\\' then ['\\', '\\']
  else if c = '\x08' then ['\\', 'b']
  else if c = '\x0c' then ['\\', 'f']
  else if c = '\n' then ['\\', 'n']
  else if c = '\r' then ['\\', 'r']
  else if c = '\t' then ['\\', 't']
  else if c.toNat < 0x20 then
    ['\\', 'u', '0', '0', Text.hexDigit (c.toNat / 16), Text.hexDigit (c.toNat % 16)]
  else [c]

def printString (s : String) : List Char := '"' :: s.toList.flatMap escape ++ ['"']

/-- A JSON value as the printer takes it. -/
inductive Value where
  | null
  | natural (n : Nat)
  | integer (i : Int)
  | string (s : String)
  | array (elements : List Value)
  | object (members : List (String × Value))

mutual

def Value.print : Value → List Char
  | .null => ['n', 'u', 'l', 'l']
  | .natural n => Decimal.digits n
  | .integer i => (if i < 0 then ['-'] else []) ++ Decimal.digits i.natAbs
  | .string s => printString s
  | .array es => '[' :: Value.printElements es ++ [']']
  | .object ms => '\x7b' :: Value.printMembers ms ++ ['\x7d']

def Value.printElements : List Value → List Char
  | [] => []
  | [e] => e.print
  | e :: more => e.print ++ ',' :: Value.printElements more

def Value.printMembers : List (String × Value) → List Char
  | [] => []
  | [(k, v)] => printString k ++ ':' :: v.print
  | (k, v) :: more => printString k ++ ':' :: v.print ++ ',' :: Value.printMembers more

end

def Value.text (v : Value) : String := String.ofList v.print

end LeaseElection.Json
