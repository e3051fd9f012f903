import LeaseElection.Text.Decimal

namespace LeaseElection

structure Duration where
  nanoseconds : Nat
  deriving DecidableEq, Repr, Inhabited

namespace Duration

def nanosPerSecond : Nat := 1000000000

/-- The longest duration that can be written down: 2^64 - 1 seconds and 999999999 nanoseconds. -/
def max : Duration := ⟨UInt64.size * nanosPerSecond - 1⟩

def ofSeconds (n : Nat) : Duration := ⟨n * nanosPerSecond⟩

def ofMillis (n : Nat) : Duration := ⟨n * 1000000⟩

def ofParts (seconds nanos : Nat) : Duration := ⟨seconds * nanosPerSecond + nanos⟩

def seconds (d : Duration) : Nat := d.nanoseconds / nanosPerSecond

def subsecond (d : Duration) : Nat := d.nanoseconds % nanosPerSecond

def secondsRoundedUp (d : Duration) : Nat :=
  (d.nanoseconds + (nanosPerSecond - 1)) / nanosPerSecond

/-- So many times the duration, or the longest duration if that is too long. -/
def saturatingMul (d : Duration) (n : Nat) : Duration :=
  ⟨if d.nanoseconds * n ≤ max.nanoseconds then d.nanoseconds * n else max.nanoseconds⟩

def atMost (d limit : Duration) : Duration :=
  if d.nanoseconds ≤ limit.nanoseconds then d else limit

def total (ds : List Duration) : Duration := ⟨ds.foldl (fun sum d => sum + d.nanoseconds) 0⟩

instance : LT Duration := ⟨fun a b => a.nanoseconds < b.nanoseconds⟩
instance : LE Duration := ⟨fun a b => a.nanoseconds ≤ b.nanoseconds⟩
instance (a b : Duration) : Decidable (a < b) :=
  inferInstanceAs (Decidable (a.nanoseconds < b.nanoseconds))
instance (a b : Duration) : Decidable (a ≤ b) :=
  inferInstanceAs (Decidable (a.nanoseconds ≤ b.nanoseconds))

def withoutTrailingZeros (cs : List Char) : List Char := (cs.reverse.dropWhile (· = '0')).reverse

def unitText (nanos places : Nat) (unit : String) : String :=
  let fraction := withoutTrailingZeros (Decimal.padded places (nanos % Nat.pow 10 places))
  let point := if fraction.isEmpty then [] else '.' :: fraction
  let whole := Decimal.digits (nanos / Nat.pow 10 places)
  String.ofList (whole ++ (if places = 0 then [] else point)) ++ unit

def text (d : Duration) : String :=
  if nanosPerSecond ≤ d.nanoseconds then unitText d.nanoseconds 9 "s"
  else if 1000000 ≤ d.nanoseconds then unitText d.nanoseconds 6 "ms"
  else if 1000 ≤ d.nanoseconds then unitText d.nanoseconds 3 "µs"
  else unitText d.nanoseconds 0 "ns"

end Duration

end LeaseElection
