import LeaseElection.Lease.Record
import LeaseElection.Proofs.Time.Instant

namespace LeaseElection.LeaseRecord

variable {r : LeaseRecord} {t now : Instant}

/-- Where the lease ends by exact arithmetic, in nanoseconds from the start of 1970. -/
def due (r : LeaseRecord) : Int := r.renewTime.nanoseconds + r.leaseSeconds.toNat * 1000000000

theorem afterSeconds?_signedSeconds (stamp : ¬ r.renewTime.InLeapSecond) :
    r.renewTime.afterSeconds? r.signedSeconds = some t ↔ t.Marks r.due := by
  rw [Instant.afterSeconds?_eq_some_iff stamp, signedSeconds]
  by_cases signed : r.leaseSeconds.toNat ≤ 9223372036854775807
  · rw [Nat.min_eq_left signed, due]
  · -- a lease as long as that ends beyond all instants, cut to the largest count or not
    rw [Nat.min_eq_right (Nat.le_of_not_le signed)]
    have earliest := (Instant.marks_self stamp).bounds.1
    refine iff_of_false (fun marks => ?_) (fun marks => ?_)
    · have latest := marks.bounds.2
      omega
    · have latest := marks.bounds.2
      unfold due at latest
      omega

theorem expiresAt_of_marks (stamp : ¬ r.renewTime.InLeapSecond) (marks : t.Marks r.due) :
    r.expiresAt = t := by
  rw [expiresAt, (afterSeconds?_signedSeconds stamp).mpr marks, Option.getD_some]

theorem expiresAt_of_unmarked (stamp : ¬ r.renewTime.InLeapSecond)
    (unmarked : ¬ ∃ t : Instant, t.Marks r.due) : r.expiresAt = .last := by
  have none : r.renewTime.afterSeconds? r.signedSeconds = none := by
    rw [Option.eq_none_iff_forall_ne_some]
    intro t ends
    exact unmarked ⟨t, (afterSeconds?_signedSeconds stamp).mp ends⟩
  rw [expiresAt, none, Option.getD_none]

theorem renewTime_le_due : r.renewTime.nanoseconds ≤ r.due := by
  unfold due
  omega

/-- A lease that ends at no instant ends after the last one. -/
theorem last_lt_due (stamp : ¬ r.renewTime.InLeapSecond)
    (unmarked : ¬ ∃ t : Instant, t.Marks r.due) : Instant.last.nanoseconds < r.due := by
  have earliest := (Instant.marks_self stamp).bounds.1
  have onwards := r.renewTime_le_due
  rw [Instant.exists_marks_iff] at unmarked
  rw [Instant.last_marks.2]
  omega

theorem isExpired_iff (stamp : ¬ r.renewTime.InLeapSecond) (ordinary : ¬ now.InLeapSecond) :
    r.IsExpired now ↔ r.due < now.nanoseconds := by
  have shown := Instant.marks_self ordinary
  unfold IsExpired
  by_cases marked : ∃ t : Instant, t.Marks r.due
  · obtain ⟨t, marks⟩ := marked
    rw [expiresAt_of_marks stamp marks]
    exact marks.lt_iff shown
  · have beyond := last_lt_due stamp marked
    have latest := shown.bounds.2
    rw [expiresAt_of_unmarked stamp marked, Instant.last_marks.lt_iff shown]
    rw [Instant.last_marks.2] at beyond
    omega

/-- Expiry is exact for every length of a lease: the record has expired when more nanoseconds than
its lease has have passed since the renewal, and not before. The lease ends that much after the
renewal or, where no instant lies there, at the last one that there is, never before the renewal. -/
theorem expiry_kept (r : LeaseRecord) (now : Instant) (stamp : ¬ r.renewTime.InLeapSecond)
    (ordinary : ¬ now.InLeapSecond) :
    (r.IsExpired now ↔
      (r.leaseSeconds.toNat : Int) * 1000000000 < now.nanoseconds - r.renewTime.nanoseconds) ∧
    (∀ t : Instant, t.Marks r.due → r.expiresAt = t) ∧
    ((¬ ∃ t : Instant, t.Marks r.due) →
      r.expiresAt = .last ∧ ∀ t : Instant, ¬ t.InLeapSecond → ¬ r.expiresAt < t) ∧
    ¬ r.expiresAt < r.renewTime := by
  refine ⟨?_, fun t marks => expiresAt_of_marks stamp marks, ?_, ?_⟩
  · rw [isExpired_iff stamp ordinary, due]
    omega
  · intro unmarked
    have final := expiresAt_of_unmarked stamp unmarked
    exact ⟨final, fun t usual => final ▸ Instant.not_last_lt usual⟩
  · intro early
    have lapsed := (isExpired_iff stamp stamp).mp early
    have onwards := r.renewTime_le_due
    omega

/-- The longest lease that a record can tell of, renewed at the start of 1970. -/
def unending : LeaseRecord := ⟨"a", 18446744073709551615, .epoch, .epoch, 0⟩

/-- It lasts for as long as there are instants. -/
theorem expiry_kept_unending : ¬ unending.renewTime.InLeapSecond ∧ ¬ Instant.last.InLeapSecond ∧
    unending.expiresAt = .last ∧ ¬ unending.IsExpired .last := by
  have stamp : ¬ unending.renewTime.InLeapSecond := by decide
  have ordinary : ¬ Instant.last.InLeapSecond := by decide
  have unmarked : ¬ ∃ t : Instant, t.Marks unending.due := by
    rw [Instant.exists_marks_iff]
    decide
  obtain ⟨lapses, -, ends, -⟩ := expiry_kept unending .last stamp ordinary
  refine ⟨stamp, ordinary, (ends unmarked).1, ?_⟩
  rw [lapses]
  decide

end LeaseElection.LeaseRecord
