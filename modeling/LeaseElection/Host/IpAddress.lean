import LeaseElection.Text.Basic
import LeaseElection.Text.Numeral

namespace LeaseElection

inductive IpAddress where
  | four (octets : List Nat)
  | six (pieces : List Nat)
  deriving DecidableEq, Repr

namespace IpAddress

def octet? (cs : List Char) : Option Nat :=
  (Decimal.natural? cs).filter fun n => n < 256 ∧ Decimal.digits n = cs

def four? (cs : List Char) : Option (List Nat) :=
  ((Text.fields '.' cs).mapM octet?).filter fun octets => octets.length = 4

def piece? (cs : List Char) : Option Nat :=
  if cs.isEmpty ∨ 4 < cs.length then none else Numeral.inBase? 16 cs

/-- The pieces that fields stand for; the last field may be four octets, which make up two. -/
def pieces? : List (List Char) → Option (List Nat)
  | [] => some []
  | [last] =>
    match piece? last, four? last with
    | some piece, _ => some [piece]
    | none, some [a, b, c, d] => some [256 * a + b, 256 * c + d]
    | none, _ => none
  | first :: rest => do return (← piece? first) :: (← pieces? rest)

def splitGap : List Char → Option (List Char × List Char)
  | [] => none
  | ':' :: ':' :: rest => some ([], rest)
  | c :: rest => (splitGap rest).map fun (before, after) => (c :: before, after)

/-- Eight pieces between colons, where a pair of colons may stand for one or more that are zero. -/
def six? (cs : List Char) : Option (List Nat) :=
  let fieldsOf (cs : List Char) : List (List Char) := if cs.isEmpty then [] else Text.fields ':' cs
  match splitGap cs with
  | none => (pieces? (fieldsOf cs)).filter fun pieces => pieces.length = 8
  | some (before, after) => do
    let front ← (fieldsOf before).mapM piece?
    let back ← pieces? (fieldsOf after)
    if front.length + back.length ≤ 7 then
      some (front ++ List.replicate (8 - front.length - back.length) 0 ++ back)
    else none

def octetsText (octets : List Nat) : String := ".".intercalate (octets.map Decimal.text)

def piecesText (pieces : List Nat) : String :=
  ":".intercalate (pieces.map fun piece => String.ofList (Text.hexDigits piece))

def zerosFrom (pieces : List Nat) (place : Nat) : Nat :=
  ((pieces.drop place).takeWhile (· = 0)).length

def longestGap (pieces : List Nat) : Nat × Nat :=
  (List.range pieces.length).foldl
    (fun best place =>
      if best.2 < zerosFrom pieces place then (place, zerosFrom pieces place) else best) (0, 0)

/-- The text of an address. A pair of colons stands for the longest row of two or more zeros. -/
def text : IpAddress → String
  | .four octets => octetsText octets
  | .six [0, 0, 0, 0, 0, 0xFFFF, x, y] =>
    "::ffff:" ++ octetsText [x / 256, x % 256, y / 256, y % 256]
  | .six pieces =>
    let (place, length) := longestGap pieces
    if 1 < length then
      piecesText (pieces.take place) ++ "::" ++ piecesText (pieces.drop (place + length))
    else piecesText pieces

end IpAddress

structure SocketAddress where
  host : IpAddress
  /-- The number of the network link that an address of eight pieces belongs to, or zero. -/
  link : Nat
  /-- The number of the socket at the host, below 2^16. -/
  socket : Nat
  deriving DecidableEq, Repr

namespace SocketAddress

def splitLast? (mark : Char) (cs : List Char) : Option (List Char × List Char) :=
  match cs.reverse.span (· ≠ mark) with
  | (after, _ :: before) => some (before.reverse, after.reverse)
  | (_, []) => none

def bounded? (limit : Nat) (cs : List Char) : Option Nat :=
  (Decimal.natural? cs).filter (· ≤ limit)

def linked? (cs : List Char) : Option (IpAddress × Nat) :=
  match cs.span (· ≠ '%') with
  | (host, []) => (IpAddress.six? host).map fun pieces => (.six pieces, 0)
  | (host, _ :: link) => do return (.six (← IpAddress.six? host), ← bounded? (UInt32.size - 1) link)

/-- Reads a host, in brackets if it is made of pieces, and the number of a socket after a colon. -/
def ofText? (text : String) : Option SocketAddress := do
  let (host, socket) ← splitLast? ':' text.toList
  let socket ← bounded? 65535 socket
  match host with
  | '[' :: bracketed =>
    if bracketed.getLast? = some ']' then
      let (host, link) ← linked? bracketed.dropLast
      return ⟨host, link, socket⟩
    else none
  | _ => return ⟨.four (← IpAddress.four? host), 0, socket⟩

def text (a : SocketAddress) : String :=
  let host := match a.host with
    | .four _ => a.host.text
    | .six _ =>
      "[" ++ a.host.text ++ (if a.link = 0 then "" else "%" ++ Decimal.text a.link) ++ "]"
  host ++ ":" ++ Decimal.text a.socket

def default : SocketAddress := ⟨.six [0, 0, 0, 0, 0, 0, 0, 0], 0, 3333⟩

end SocketAddress

end LeaseElection
