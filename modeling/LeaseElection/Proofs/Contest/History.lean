import LeaseElection.Proofs.Contest.Preservation
import LeaseElection.Proofs.Election.Resolution

namespace LeaseElection

theorem Roster.named (R : Roster ι) (i : ι) : (R.config i).identity ≠ "" := by
  obtain ⟨raw, surroundings, resolved⟩ := R.resolved i
  exact (ElectionConfig.resolve_ok resolved).1

/-- Everybody reads one wall clock, which does not go back. -/
structure Roster.SharesClock (R : Roster ι) : Prop where
  shared : ∀ i j now, R.wall i now = R.wall j now
  forward : ∀ i now later, now ≤ later → ¬ R.wall i later < R.wall i now

theorem Derives.succeeds {R : Roster ι} {i : ι} {begun : Nat} {v : Version ι τ}
    {record : LeaseRecord} (derives : Derives R i begun v record) : record.Succeeds v.record := by
  have named := R.named i
  cases derives with
  | takesOver claimable made =>
      rw [made]
      exact v.record.takenOverBy_succeeds _ _ _ named
  | renews own made =>
      rw [made]
      exact v.record.renewed_succeeds _ _
  | releases own made =>
      rw [made]
      exact v.record.released_succeeds _ fun vacant => named (own.symm.trans vacant)

theorem Derives.acquired_of_vacant {R : Roster ι} {i : ι} {begun : Nat} {v : Version ι τ}
    {record : LeaseRecord} (derives : Derives R i begun v record) (vacant : record.IsVacant) :
    record.acquireTime = record.renewTime := by
  have named := R.named i
  cases derives with
  | takesOver claimable made =>
      rw [made] at vacant
      exact absurd ((v.record.takenOverBy_holder ..).symm.trans vacant) named
  | renews own made =>
      rw [made] at vacant
      exact absurd (own.symm.trans ((v.record.renewed_holder ..).symm.trans vacant)) named
  | releases own made =>
      rw [made]
      rfl

namespace Version

variable {ι τ : Type} {R : Roster ι}

/-- How often the record went to a new holder. -/
def changes : List (Version ι τ) → Nat
  | [] | [_] => 0
  | new :: old :: older => changes (old :: older) +
      if new.record.holder ≠ old.record.holder ∧ ¬ new.record.IsVacant then 1 else 0

theorem Chained.tail {versions : List (Version ι τ)} {past : List (Version ι τ)}
    (chained : Chained R versions) (tail : past <:+ versions) : Chained R past := by
  obtain ⟨later, rfl⟩ := tail
  induction later with
  | nil => exact chained
  | cons v later ih => exact ih chained.2

theorem Chained.counted {older : List (Version ι τ)} {newest : Version ι τ}
    (chained : Chained R (newest :: older)) :
    newest.record.transitions.toNat = min (changes (newest :: older)) (UInt64.size - 1) := by
  induction older generalizing newest with
  | nil =>
      have first : newest.record = _ := chained.1
      rw [first]
      rfl
  | cons old older ih =>
      obtain ⟨⟨-, derives⟩, before⟩ := chained
      have succeeds := derives.succeeds
      have counted := ih before
      rw [changes]
      split
      next changed =>
        -- both counts stop at the largest number there is
        rw [(succeeds.newHolder changed.1 changed.2).2, LeaseRecord.countUp_toNat, counted]
        omega
      next unchanged =>
        have kept : newest.record.transitions = old.record.transitions := by
          by_cases same : newest.record.holder = old.record.holder
          · exact (succeeds.sameHolder same).2
          · by_cases vacant : newest.record.IsVacant
            · exact succeeds.vacated vacant
            · exact absurd ⟨same, vacant⟩ unchanged
        rw [kept, counted, Nat.add_zero]

/-- Writes take effect in the order in which they were begun. -/
theorem Chained.begun_pairwise {versions : List (Version ι τ)} (chained : Chained R versions) :
    versions.Pairwise fun new old => old.begun ≤ new.begun := by
  induction versions with
  | nil => exact .nil
  | cons newest older ih =>
      have before := ih chained.2
      refine .cons ?_ before
      cases older with
      | nil => simp
      | cons old older =>
          intro v among
          have recent : old.begun ≤ newest.begun := chained.1.1
          rcases List.mem_cons.mp among with rfl | older
          · exact recent
          · exact Nat.le_trans (List.rel_of_pairwise_cons before older) recent

end Version

theorem Instant.not_lt_trans {a b c : Instant} (ab : ¬ b < a) (bc : ¬ c < b) : ¬ c < a := by
  rw [Instant.lt_def] at *
  omega

namespace Version

variable {ι τ : Type} {R : Roster ι} {versions : List (Version ι τ)}

theorem Chained.renewed_pairwise (chained : Chained R versions) (clock : R.SharesClock) :
    versions.Pairwise fun new old => ¬ new.record.renewTime < old.record.renewTime := by
  refine chained.begun_pairwise.imp_of_mem ?_
  intro new old newer older order
  rw [(chained.genuine new newer).1, (chained.genuine old older).1,
    clock.shared new.writer old.writer]
  exact clock.forward old.writer old.begun new.begun order

theorem Chained.acquired (chained : Chained R versions) (clock : R.SharesClock) :
    ∀ v ∈ versions, ¬ v.record.renewTime < v.record.acquireTime := by
  have irreflexive (t : Instant) : ¬ t < t := by
    rw [Instant.lt_def]
    omega
  induction versions with
  | nil => simp
  | cons newest older ih =>
      have before := ih chained.2
      intro v among
      rcases List.mem_cons.mp among with rfl | among
      · cases older with
        | nil =>
            have first : v.record = _ := chained.1
            rw [first]
            exact irreflexive _
        | cons old older =>
            have succeeds := chained.1.2.succeeds
            have forward := List.rel_of_pairwise_cons (chained.renewed_pairwise clock)
              List.mem_cons_self
            by_cases same : v.record.holder = old.record.holder
            · rw [(succeeds.sameHolder same).1]
              exact Instant.not_lt_trans (before old List.mem_cons_self) forward
            · by_cases vacant : v.record.IsVacant
              · rw [chained.1.2.acquired_of_vacant vacant]
                exact irreflexive _
              · rw [(succeeds.newHolder same vacant).1]
                exact irreflexive _
      · exact before v among

end Version

namespace Contest

/-- What the versions of a record tell, in the order in which they were written. -/
structure Historic (R : Roster ι) (w : Contest ι τ) : Prop where
  first : ∀ v, [v] <:+ w.versions →
    v.record.transitions = 0 ∧ v.record.acquireTime = v.record.renewTime
  /-- Every later write was made from the version it replaced. -/
  made : ∀ new old older, new :: old :: older <:+ w.versions →
    Derives R new.writer new.begun old new.record ∧ new.record.Succeeds old.record
  counted : ∀ newest older, newest :: older <:+ w.versions →
    newest.record.transitions.toNat = min (Version.changes (newest :: older)) (UInt64.size - 1)
  timed : R.SharesClock → (∀ v ∈ w.versions, ¬ v.record.renewTime < v.record.acquireTime) ∧
    w.versions.Pairwise fun new old => ¬ new.record.renewTime < old.record.renewTime

variable {ι τ : Type} [DecidableEq ι] [DecidableEq τ] {R : Roster ι} {w : Contest ι τ}

/-- Whatever is late, lost, cancelled or started anew, the record's history is in order. -/
theorem history_kept (reachable : Reachable R w) : w.Historic R where
  first := by
    intro v tail
    have follows := (reachable.sound.chained.tail tail).1
    have made : v.record = _ := follows
    rw [made]
    exact ⟨rfl, rfl⟩
  made := by
    intro new old older tail
    have derives := (reachable.sound.chained.tail tail).1.2
    exact ⟨derives, derives.succeeds⟩
  counted := fun newest older tail => (reachable.sound.chained.tail tail).counted
  timed := fun clock =>
    ⟨reachable.sound.chained.acquired clock, reachable.sound.chained.renewed_pairwise clock⟩

/-- A participant that creates the record, leads, and gives the lease up when it is cancelled. -/
theorem history_kept_release : ∃ w : Contest Bool Nat,
    Reachable .pair w ∧ w.versions.length = 2 ∧ w.Historic .pair := by
  have started := (Reachable.initial : Reachable .pair (_ : Contest Bool Nat)).acts false
    (.start false) rfl (by simp)
  have absent := started.serves false [] .get 0 [] 0 rfl (by decide)
  have claiming := absent.acts false
    (.hear (.answered (.failed (.notFound (Roster.pair.config false).key)))) trivial
    (fun answer same => by cases same; exact .inl ⟨_, rfl⟩)
  have created := claiming.serves false [] _ 0 _ 1 rfl (by decide)
  have leading := created.acts false (.hear (.answered (.written 1))) trivial
    (fun answer same => by cases same; exact .inr ⟨_, _, rfl, rfl⟩)
  have cancelled := leading.acts false .cancel trivial (by simp)
  have stopping := cancelled.acts false (.hear .cancelled) rfl (by simp)
  have releasing := stopping.acts false (.hear (.workEnded false)) rfl (by simp)
  have released := releasing.serves false [] _ 0 _ 2 rfl (by decide)
  exact ⟨_, released, rfl, history_kept released⟩

end Contest

end LeaseElection
