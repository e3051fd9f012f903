import LeaseElection.Bucket.Contents
import LeaseElection.Proofs.Lock.Memory

namespace LeaseElection.Bucket

variable {b : Bucket} {key other value : String} {operation : BucketOperation} {expected : Nat}

theorem entry_record : Bucket.entry? (b.record key operation value) other =
    if other = key then some ⟨b.lastRevision + 1, operation, value⟩ else b.entry? other :=
  lookup_replaced b.entries key other ⟨b.lastRevision + 1, operation, value⟩

theorem revision_of_absent (absent : b.entry? key = none) : b.revision key = 0 := by
  rw [revision, absent]

theorem revision_of_present {e : BucketEntry} (present : b.entry? key = some e) :
    b.revision key = e.revision := by
  rw [revision, present]

/-- The key has a value, and this is the revision it was written under. -/
def LiveAt (b : Bucket) (key : String) (revision : Nat) : Prop :=
  ∃ value, b.entry? key = some ⟨revision, .put, value⟩

theorem LiveAt.current {revision : Nat} (live : b.LiveAt key revision) :
    b.revision key = revision := by
  obtain ⟨value, present⟩ := live
  exact revision_of_present present

/-- The revisions of a bucket were all drawn from its counter. -/
def Numbered (b : Bucket) : Prop :=
  ∀ key e, b.entry? key = some e → e.revision ≠ 0 ∧ e.revision ≤ b.lastRevision

theorem empty_numbered : empty.Numbered := by
  intro key e present
  cases present

theorem Numbered.record (numbered : b.Numbered) : (b.record key operation value).Numbered := by
  intro other e present
  rw [entry_record] at present
  split at present
  · cases present
    exact ⟨Nat.succ_ne_zero _, Nat.le_refl _⟩
  · obtain ⟨positive, drawn⟩ := numbered other e present
    exact ⟨positive, Nat.le_succ_of_le drawn⟩

/-- A bucket as it may be found later: an entry is still the same or has a newer revision. -/
structure Later (b later : Bucket) : Prop where
  counted : b.lastRevision ≤ later.lastRevision
  entries : ∀ key, later.entry? key = b.entry? key ∨
    ∃ e, later.entry? key = some e ∧ b.lastRevision < e.revision
  numbered : b.Numbered → later.Numbered

theorem Later.refl (b : Bucket) : Later b b := ⟨Nat.le_refl _, fun _ => .inl rfl, id⟩

theorem Later.trans {first second third : Bucket} (one : Later first second)
    (two : Later second third) : Later first third where
  counted := Nat.le_trans one.counted two.counted
  entries := by
    intro key
    rcases two.entries key with same | ⟨e, present, newer⟩
    · rw [same]
      exact one.entries key
    · exact .inr ⟨e, present, Nat.lt_of_le_of_lt one.counted newer⟩
  numbered := fun numbered => two.numbered (one.numbered numbered)

theorem later_record (b : Bucket) (key : String) (operation : BucketOperation) (value : String) :
    Later b (b.record key operation value) where
  counted := Nat.le_succ _
  entries := by
    intro other
    rw [entry_record]
    split
    · exact .inr ⟨_, rfl, Nat.lt_succ_self _⟩
    · exact .inl rfl
  numbered := .record

theorem later_changes (b : Bucket) (changes : List BucketChange) :
    Later b (changes.foldl change b) := by
  induction changes generalizing b with
  | nil => exact .refl b
  | cons first changes ih =>
      have one : Later b (b.change first) := by
        cases first with
        | put key value => exact later_record b key .put value
        | delete key => exact later_record b key .delete ""
        | purge key => exact later_record b key .purge ""
      exact one.trans (ih (b.change first))

/-- An entry whose revision was drawn long ago was there then. -/
theorem Later.entry_of_drawn {later : Bucket} (change : Later b later) {e : BucketEntry}
    (present : later.entry? key = some e) (drawn : e.revision ≤ b.lastRevision) :
    b.entry? key = some e := by
  rcases change.entries key with same | ⟨newest, found, newer⟩
  · rw [← same, present]
  · rw [present] at found
    cases found
    omega

/-- A revision that a key no longer has does not come back. -/
theorem Later.revision_ne {later : Bucket} (change : Later b later) {revision : Nat}
    (positive : revision ≠ 0) (drawn : revision ≤ b.lastRevision)
    (superseded : b.revision key ≠ revision) : later.revision key ≠ revision := by
  intro same
  cases present : later.entry? key with
  | none =>
      rw [revision_of_absent present] at same
      exact positive same.symm
  | some e =>
      rw [revision_of_present present] at same
      have before := change.entry_of_drawn present (by omega)
      exact superseded ((revision_of_present before).trans same)

end LeaseElection.Bucket
