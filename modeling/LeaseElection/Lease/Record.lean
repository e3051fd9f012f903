import LeaseElection.Time.Duration
import LeaseElection.Time.Instant

namespace LeaseElection

/-- The claim that a lock record holds. -/
structure LeaseRecord where
  /-- The participant that has the lease; empty if nobody has. -/
  holder : String
  /-- How many seconds after `renewTime` the claim lapses. -/
  leaseSeconds : UInt64
  acquireTime : Instant
  /-- When the holder last refreshed the claim. -/
  renewTime : Instant
  /-- How often the lease went to a new holder. -/
  transitions : UInt64
  deriving DecidableEq, Repr, Inhabited

namespace LeaseRecord

/-- The length of a lease as it is recorded: whole seconds, rounded up, and at most 2^64 - 1. -/
def recordedSeconds (lease : Duration) : UInt64 :=
  UInt64.ofNat (min lease.secondsRoundedUp (UInt64.size - 1))

/-- A count increased by one, unless it is the largest there is. -/
def countUp (n : UInt64) : UInt64 := if n.toNat = UInt64.size - 1 then n else n + 1

def claimed (identity : String) (lease : Duration) (now : Instant) : LeaseRecord :=
  ⟨identity, recordedSeconds lease, now, now, 0⟩

def IsVacant (r : LeaseRecord) : Prop := r.holder = ""

instance (r : LeaseRecord) : Decidable r.IsVacant := inferInstanceAs (Decidable (r.holder = ""))

def IsHeldBy (r : LeaseRecord) (identity : String) : Prop := ¬ r.IsVacant ∧ r.holder = identity

instance (r : LeaseRecord) (identity : String) : Decidable (r.IsHeldBy identity) :=
  inferInstanceAs (Decidable (¬ r.IsVacant ∧ r.holder = identity))

/-- The lease as a signed count of seconds, or 2^63 - 1, the largest such count, if it is longer. -/
def signedSeconds (r : LeaseRecord) : Nat := min r.leaseSeconds.toNat 9223372036854775807

/-- The instant after which the claim has lapsed: the lease after the renewal, or the last instant
if the lease is too long for a span of time or ends beyond all instants. -/
def expiresAt (r : LeaseRecord) : Instant :=
  (r.renewTime.afterSeconds? r.signedSeconds).getD Instant.last

def IsExpired (r : LeaseRecord) (now : Instant) : Prop := r.expiresAt < now

instance (r : LeaseRecord) (now : Instant) : Decidable (r.IsExpired now) :=
  inferInstanceAs (Decidable (r.expiresAt < now))

/-- The record with which a participant takes the lease over. One that resumes its own claim keeps
the time of acquisition and the count of transitions. -/
def takenOverBy (r : LeaseRecord) (identity : String) (lease : Duration) (now : Instant) :
    LeaseRecord :=
  if r.holder = identity then
    { r with leaseSeconds := recordedSeconds lease, renewTime := now }
  else ⟨identity, recordedSeconds lease, now, now, countUp r.transitions⟩

def renewed (r : LeaseRecord) (lease : Duration) (now : Instant) : LeaseRecord :=
  { r with leaseSeconds := recordedSeconds lease, renewTime := now }

/-- The vacant record with which a holder gives the lease up. -/
def released (r : LeaseRecord) (now : Instant) : LeaseRecord :=
  ⟨"", 1, now, now, r.transitions⟩

end LeaseRecord

end LeaseElection
