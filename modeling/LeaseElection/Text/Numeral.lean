import LeaseElection.Text.Decimal

namespace LeaseElection.Numeral

/-- Why a text is not a number within the limits. -/
inductive Fault where
  | empty
  | notADigit
  | tooLarge
  | tooSmall
  deriving DecidableEq, Repr

def Fault.message : Fault → String
  | .empty => "cannot parse integer from empty string"
  | .notADigit => "invalid digit found in string"
  | .tooLarge => "number too large to fit in target type"
  | .tooSmall => "number too small to fit in target type"

/-- Goes on reading digits after those that made up `n`; a number beyond the limit is a fault as soon
as it is reached. -/
def digitsFrom (limit : Nat) (beyond : Fault) (n : Nat) : List Char → Except Fault Nat
  | [] => .ok n
  | c :: rest =>
    match Decimal.digit? c with
    | none => .error .notADigit
    | some d =>
      if limit < 10 * n + d then .error beyond else digitsFrom limit beyond (10 * n + d) rest

def digits (limit : Nat) (beyond : Fault) : List Char → Except Fault Nat
  | [] => .error .notADigit
  | cs => digitsFrom limit beyond 0 cs

def natural (limit : Nat) : List Char → Except Fault Nat
  | [] => .error .empty
  | '+' :: rest => digits limit .tooLarge rest
  | cs => digits limit .tooLarge cs

def integer (bits : Nat) : List Char → Except Fault Int
  | [] => .error .empty
  | '+' :: rest => (digits (Nat.pow 2 (bits - 1) - 1) .tooLarge rest).map Int.ofNat
  | '-' :: rest => (digits (Nat.pow 2 (bits - 1)) .tooSmall rest).map fun n => -(n : Int)
  | cs => (digits (Nat.pow 2 (bits - 1) - 1) .tooLarge cs).map Int.ofNat

def hexValue? (c : Char) : Option Nat :=
  if c.isDigit then some (c.toNat - 48)
  else if 'a' ≤ c ∧ c ≤ 'f' then some (c.toNat - 87)
  else if 'A' ≤ c ∧ c ≤ 'F' then some (c.toNat - 55)
  else none

def inBase? (base : Nat) (cs : List Char) : Option Nat :=
  cs.foldlM (fun n c => (hexValue? c).bind fun d => if d < base then some (n * base + d) else none) 0

end LeaseElection.Numeral
