import LeaseElection.Text.Basic
import LeaseElection.Text.Decimal
import LeaseElection.Time.Instant

/-!
# RFC 3339 times

The text of an instant and the reading of such text. Printing shows universal time with 0, 3, 6 or
9 decimal places, whichever is the least that holds the value. Reading is relaxed: blanks may stand
before numbers and separators, fields may have fewer digits, and any offset from universal time may
be given.
-/
namespace LeaseElection.Rfc3339

open LeaseElection.Text (isBlank trimStart)

inductive Fault where
  | outOfRange
  | impossible
  | invalid
  | tooShort
  | tooLong
  deriving DecidableEq, Repr

def Fault.message : Fault → String
  | .outOfRange => "input is out of range"
  | .impossible => "no possible date and time matching input"
  | .invalid => "input contains invalid characters"
  | .tooShort => "premature end of input"
  | .tooLong => "trailing input"

def yearText (year : Int) : List Char :=
  if 0 ≤ year ∧ year ≤ 9999 then Decimal.padded 4 year.toNat
  else (if year < 0 then '-' else '+') :: Decimal.padded 4 year.natAbs

def fractionText (nanos : Nat) : List Char :=
  if nanos = 0 then []
  else if nanos % 1000000 = 0 then '.' :: Decimal.padded 3 (nanos / 1000000)
  else if nanos % 1000 = 0 then '.' :: Decimal.padded 6 (nanos / 1000)
  else '.' :: Decimal.padded 9 nanos

def print (t : Instant) : List Char :=
  let date := Calendar.Date.ofNumber (t.seconds / 86400 + Calendar.epoch)
  let clock := (t.seconds % 86400).toNat
  let leap := t.nanos / 1000000000
  yearText date.year ++ '-' :: Decimal.padded 2 date.month ++ '-' :: Decimal.padded 2 date.day
    ++ 'T' :: Decimal.padded 2 (clock / 3600)
    ++ ':' :: Decimal.padded 2 (clock / 60 % 60)
    ++ ':' :: Decimal.padded 2 (clock % 60 + leap)
    ++ fractionText (t.nanos % 1000000000) ++ ['Z']

def text (t : Instant) : String := String.ofList (print t)

/-- Reads a number of at most `width` digits, which must have one digit at least. -/
def number (width : Nat) (cs : List Char) : Except Fault (Nat × List Char) :=
  let taken := (cs.take width).takeWhile Char.isDigit
  if taken.isEmpty then .error (if cs.isEmpty then .tooShort else .invalid)
  else if 9223372036854775808 ≤ Decimal.value taken then .error .outOfRange
  else .ok (Decimal.value taken, cs.drop taken.length)

def field (width low high : Nat) (cs : List Char) : Except Fault (Nat × List Char) := do
  let (n, rest) ← number width (trimStart cs)
  if low ≤ n ∧ n ≤ high then .ok (n, rest) else .error .outOfRange

/-- Reads blanks and a year: four digits at most, or a sign and any number of them. -/
def year (cs : List Char) : Except Fault (Int × List Char) := do
  let cs := trimStart cs
  let (n, rest) ← match cs with
    | '-' :: more => (number more.length more).map fun (n, rest) => (-(n : Int), rest)
    | '+' :: more => (number more.length more).map fun (n, rest) => ((n : Int), rest)
    | _ => (number 4 cs).map fun (n, rest) => ((n : Int), rest)
  if -2147483648 ≤ n ∧ n < 2147483648 then .ok (n, rest) else .error .outOfRange

def exactly (c : Char) : List Char → Except Fault (List Char)
  | [] => .error .tooShort
  | d :: rest => if d = c then .ok rest else .error .invalid

def separator (c : Char) (cs : List Char) : Except Fault (List Char) := exactly c (trimStart cs)

def dateEnd : List Char → Except Fault (List Char)
  | [] => .error .tooShort
  | c :: rest => if c = 'T' ∨ c = 't' ∨ c = ' ' then .ok rest else .error .invalid

/-- Reads the decimal places of a second as nanoseconds, dropping those beyond the ninth. -/
def fraction : List Char → Except Fault (Nat × List Char)
  | '.' :: more => do
    let (n, rest) ← number 9 more
    .ok (n * Nat.pow 10 (9 - (more.length - rest.length)), rest.dropWhile Char.isDigit)
  | cs => .ok (0, cs)

def twoDigits : List Char → Except Fault (Nat × Nat × List Char)
  | [] => .error .tooShort
  | [c] => .error (if c.utf8Size < 2 then .tooShort else .invalid)
  | c :: d :: rest =>
    match Decimal.digit? c, Decimal.digit? d with
    | some m, some n => .ok (m, n, rest)
    | _, _ => .error .invalid

def hoursAndMinutes (cs : List Char) : Except Fault (Nat × List Char) := do
  let (h₁, h₂, rest) ← twoDigits cs
  let (m₁, m₂, rest) ← twoDigits (rest.dropWhile fun c => c = ':' ∨ isBlank c)
  if 6 ≤ m₁ then .error .outOfRange else .ok ((10 * h₁ + h₂) * 60 + (10 * m₁ + m₂), rest)

def offset (cs : List Char) : Except Fault (Int × List Char) :=
  match cs with
  | [] => .error .tooShort
  | c :: rest =>
    if (cs.take 3).map Char.toUpper = ['U', 'T', 'C'] then .ok (0, cs.drop 3)
    else if c = 'Z' ∨ c = 'z' then .ok (0, rest)
    else if c = '+' then (hoursAndMinutes rest).map fun (n, rest) => ((n : Int), rest)
    else if c = '-' ∨ c = '\u2212' then (hoursAndMinutes rest).map fun (n, rest) => (-(n : Int), rest)
    else .error .invalid

/-- What a text says about a time, before it is checked against the calendar. -/
structure Reading where
  date : Calendar.Date
  hour : Nat
  minute : Nat
  second : Nat
  nanos : Nat
  offset : Int
  deriving DecidableEq, Repr

def parts (cs : List Char) : Except Fault Reading := do
  let (year, cs) ← year cs
  let cs ← separator '-' cs
  let (month, cs) ← field 2 1 12 cs
  let cs ← separator '-' cs
  let (day, cs) ← field 2 1 31 cs
  let cs ← dateEnd cs
  let (hour, cs) ← field 2 0 23 cs
  let cs ← separator ':' cs
  let (minute, cs) ← field 2 0 59 cs
  let cs ← separator ':' cs
  let (second, cs) ← field 2 0 60 cs
  let (nanos, cs) ← fraction cs
  let (offset, cs) ← offset (trimStart cs)
  if (trimStart cs).isEmpty then .ok ⟨⟨year, month, day⟩, hour, minute, second, nanos, offset⟩
  else .error .tooLong

def Reading.instant (r : Reading) : Except Fault Instant :=
  if ¬ (r.date.Valid ∧ -262143 ≤ r.date.year ∧ r.date.year ≤ 262142) then .error .outOfRange
  else if 1440 ≤ r.offset.natAbs then .error .outOfRange
  else
    let day := (r.date.number - Calendar.epoch) * 86400
    let clock := (r.hour * 3600 + r.minute * 60 + min r.second 59 : Nat)
    let leap := if r.second = 60 then 1000000000 else 0
    match Instant.ofParts? (day + clock - r.offset * 60) (r.nanos + leap) with
    | some t => .ok t
    | none => .error .impossible

def read (cs : List Char) : Except Fault Instant := do (← parts cs).instant

end LeaseElection.Rfc3339
