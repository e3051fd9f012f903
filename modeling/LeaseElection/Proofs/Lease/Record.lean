import LeaseElection.Proofs.Lease.Expiry

namespace LeaseElection.LeaseRecord

/-! # How records follow one another

What the records that a participant writes have in common with the records they are made from. The
records are taken apart before they are compared: a comparison of whole records would have the
kernel work out the length of a lease. -/

variable (r : LeaseRecord) (identity : String) (lease : Duration) (now : Instant)

@[simp] theorem takenOverBy_holder : (r.takenOverBy identity lease now).holder = identity := by
  obtain ⟨holder, leaseSeconds, acquireTime, renewTime, transitions⟩ := r
  unfold takenOverBy
  split
  next own => exact own
  · rfl

/-- A participant that resumes its own claim does what a leader does that renews it. -/
theorem takenOverBy_own (own : r.holder = identity) :
    r.takenOverBy identity lease now = r.renewed lease now := by
  rw [takenOverBy, if_pos own, renewed]

theorem takenOverBy_other (other : r.holder ≠ identity) :
    r.takenOverBy identity lease now =
      ⟨identity, recordedSeconds lease, now, now, countUp r.transitions⟩ := by
  rw [takenOverBy, if_neg other]

@[simp] theorem renewed_holder : (r.renewed lease now).holder = r.holder := by
  cases r
  rfl

/-- What a participant writes carries the time of writing and the length of its own lease. -/
theorem takenOverBy_stamp : (r.takenOverBy identity lease now).renewTime = now ∧
    (r.takenOverBy identity lease now).leaseSeconds = recordedSeconds lease := by
  unfold takenOverBy
  split
  · exact ⟨rfl, rfl⟩
  · exact ⟨rfl, rfl⟩

theorem renewed_stamp : (r.renewed lease now).renewTime = now ∧
    (r.renewed lease now).leaseSeconds = recordedSeconds lease := ⟨rfl, rfl⟩

theorem recordedSeconds_le
    (short : lease.nanoseconds ≤ (UInt64.size - 1) * Duration.nanosPerSecond) :
    lease.nanoseconds ≤ (recordedSeconds lease).toNat * Duration.nanosPerSecond := by
  have rounded : lease.secondsRoundedUp = (lease.nanoseconds + 999999999) / 1000000000 := rfl
  have whole : lease.secondsRoundedUp ≤ UInt64.size - 1 := by
    simp only [UInt64.size, Duration.nanosPerSecond] at short ⊢
    rw [rounded]
    omega
  have recorded : (recordedSeconds lease).toNat = lease.secondsRoundedUp := by
    rw [recordedSeconds, Nat.min_eq_left whole]
    exact UInt64.toNat_ofNat_of_lt (Nat.lt_of_le_of_lt whole (by decide))
  have up (n : Nat) : n ≤ (n + 999999999) / 1000000000 * Duration.nanosPerSecond := by
    rw [Duration.nanosPerSecond]
    omega
  rw [recorded, rounded]
  exact up lease.nanoseconds

/-- A claim that has lapsed by a clock was renewed, by its own time, longer ago than its lease. -/
theorem IsExpired.elapsed {r : LeaseRecord} {now : Instant} (expired : r.IsExpired now)
    (stamp : ¬ r.renewTime.InLeapSecond) (ordinary : ¬ now.InLeapSecond) :
    r.renewTime.nanoseconds + r.leaseSeconds.toNat * Duration.nanosPerSecond < now.nanoseconds :=
  (isExpired_iff stamp ordinary).mp expired

theorem countUp_toNat (n : UInt64) : (countUp n).toNat = min (n.toNat + 1) (UInt64.size - 1) := by
  have bounded := n.toNat_lt
  unfold countUp UInt64.size
  split
  next largest => omega
  next smaller =>
    rw [UInt64.toNat_add]
    have one : (1 : UInt64).toNat = 1 := rfl
    rw [one, Nat.mod_eq_of_lt (by omega)]
    omega

/-- What the record of a write owes to the record it replaces. -/
structure Succeeds (new old : LeaseRecord) : Prop where
  sameHolder : new.holder = old.holder →
    new.acquireTime = old.acquireTime ∧ new.transitions = old.transitions
  newHolder : new.holder ≠ old.holder → ¬ new.IsVacant →
    new.acquireTime = new.renewTime ∧ new.transitions = countUp old.transitions
  vacated : new.IsVacant → new.transitions = old.transitions

theorem renewed_succeeds : (r.renewed lease now).Succeeds r := by
  obtain ⟨holder, leaseSeconds, acquireTime, renewTime, transitions⟩ := r
  exact ⟨fun _ => ⟨rfl, rfl⟩, fun changed => absurd rfl changed, fun _ => rfl⟩

theorem takenOverBy_succeeds (named : identity ≠ "") :
    (r.takenOverBy identity lease now).Succeeds r := by
  by_cases own : r.holder = identity
  · rw [r.takenOverBy_own identity lease now own]
    exact r.renewed_succeeds lease now
  · rw [r.takenOverBy_other identity lease now own]
    exact ⟨fun same => absurd same.symm own, fun _ _ => ⟨rfl, rfl⟩,
      fun vacant => absurd vacant named⟩

theorem released_succeeds (held : ¬ r.IsVacant) : (r.released now).Succeeds r :=
  ⟨fun same => absurd same.symm held, fun _ occupied => absurd rfl occupied, fun _ => rfl⟩

end LeaseElection.LeaseRecord
