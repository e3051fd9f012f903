import LeaseElection.Time.Calendar

/-!
# Instants

A point in universal time: seconds from 1970-01-01, and nanoseconds into the second. The
nanoseconds reach beyond 10^9 during a leap second, which follows the last second of a minute.
Instants lie between the years -262143 and 262142 and are ordered by second, then nanosecond.
-/
namespace LeaseElection

structure Instant where
  seconds : Int
  nanos : Nat
  first_le : -8334601228800 ≤ seconds
  le_last : seconds ≤ 8210266876799
  nanos_lt : nanos < 2000000000
  leap_at_end : 1000000000 ≤ nanos → seconds % 60 = 59
  deriving DecidableEq, Repr

namespace Instant

def InRange (seconds : Int) (nanos : Nat) : Prop :=
  -8334601228800 ≤ seconds ∧ seconds ≤ 8210266876799 ∧ nanos < 2000000000 ∧
    (1000000000 ≤ nanos → seconds % 60 = 59)

instance (seconds : Int) (nanos : Nat) : Decidable (InRange seconds nanos) :=
  inferInstanceAs (Decidable (_ ∧ _ ∧ _ ∧ _))

def ofParts? (seconds : Int) (nanos : Nat) : Option Instant :=
  if h : InRange seconds nanos then some ⟨seconds, nanos, h.1, h.2.1, h.2.2.1, h.2.2.2⟩ else none

def last : Instant := ⟨8210266876799, 999999999, by decide, by decide, by decide, by decide⟩

def epoch : Instant := ⟨0, 0, by decide, by decide, by decide, by decide⟩

instance : Inhabited Instant := ⟨epoch⟩

instance : LT Instant :=
  ⟨fun a b => a.seconds < b.seconds ∨ (a.seconds = b.seconds ∧ a.nanos < b.nanos)⟩

instance (a b : Instant) : Decidable (a < b) :=
  inferInstanceAs (Decidable (a.seconds < b.seconds ∨ (a.seconds = b.seconds ∧ a.nanos < b.nanos)))

theorem lt_def {a b : Instant} :
    a < b ↔ a.seconds < b.seconds ∨ (a.seconds = b.seconds ∧ a.nanos < b.nanos) := Iff.rfl

def InLeapSecond (t : Instant) : Prop := 1000000000 ≤ t.nanos

instance (t : Instant) : Decidable t.InLeapSecond :=
  inferInstanceAs (Decidable (1000000000 ≤ t.nanos))

/-- The instant a number of whole seconds later, if there is one. A leap second is left for the
ordinary second it follows, so that it is passed over like any other. -/
def addSeconds? (t : Instant) (n : Nat) : Option Instant :=
  if n = 0 then some t else ofParts? (t.seconds + n) (t.nanos % 1000000000)

/-- The most whole seconds that a span of time may have: those of 2^63 - 1 milliseconds. -/
def longestSpan : Nat := 9223372036854775

/-- The instant a number of whole seconds later, if they make up a span of time and there is one. -/
def afterSeconds? (t : Instant) (n : Nat) : Option Instant :=
  if n ≤ longestSpan then t.addSeconds? n else none

/-- The instant that lies this many nanoseconds after the start of 1970, if there is one. -/
def ofNanoseconds? (n : Int) : Option Instant :=
  ofParts? (n / 1000000000) (n % 1000000000).toNat

/-- An instant that is not in a leap second, as nanoseconds from the start of 1970. -/
def nanoseconds (t : Instant) : Int := t.seconds * 1000000000 + t.nanos

end Instant

end LeaseElection
