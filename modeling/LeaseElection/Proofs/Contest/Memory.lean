import LeaseElection.Proofs.Contest.Basic
import LeaseElection.Proofs.Lock.Memory

namespace LeaseElection

namespace MemoryStore

variable {ι : Type} {key other : RecordKey} {s : MemoryStore} {record : LeaseRecord}
  {versions : List (Version ι Token)}

/-- The store holds the newest of these versions, under a token it gave out. -/
structure Shows (s : MemoryStore) (key : RecordKey) (versions : List (Version ι Token)) :
    Prop where
  newest : s.shown? key = versions.head?.map Version.toVersioned
  issued : ∀ v ∈ versions, ∃ revision, revision ≤ s.lastRevision ∧ v.token = .ofRevision revision

theorem empty_shows : empty.Shows key ([] : List (Version ι Token)) := ⟨rfl, by simp⟩

theorem Shows.fresh (shows : s.Shows key versions) :
    ∀ v ∈ versions, v.token ≠ .ofRevision (s.lastRevision + 1) := by
  intro v among same
  obtain ⟨revision, old, token⟩ := shows.issued v among
  have one := Token.ofRevision_injective (token.symm.trans same)
  omega

theorem Shows.put (shows : s.Shows key versions) (record : LeaseRecord) (writer : ι)
    (begun : Nat) : (s.put key record).Shows key
      (⟨⟨record, .ofRevision (s.lastRevision + 1)⟩, writer, begun⟩ :: versions) where
  newest := by
    rw [shown?, put_entry]
    rfl
  issued := by
    intro v among
    rcases List.mem_cons.mp among with rfl | old
    · exact ⟨s.lastRevision + 1, Nat.le_refl _, rfl⟩
    · obtain ⟨revision, bound, token⟩ := shows.issued v old
      exact ⟨revision, Nat.le_succ_of_le bound, token⟩

theorem Shows.put_other (shows : s.Shows key versions) (different : other ≠ key) :
    (s.put other record).Shows key versions where
  newest := by
    rw [shown?, put_entry_of_ne different]
    exact shows.newest
  issued := by
    intro v among
    obtain ⟨revision, bound, token⟩ := shows.issued v among
    exact ⟨revision, Nat.le_succ_of_le bound, token⟩

/-- What the store answers is what a contest would have it answer, up to the text of a failure. -/
theorem Shows.call (shows : s.Shows key versions) (writer : ι) (begun : Nat)
    (call : StoreCall Token) :
    (s.call key call).2.Shows key
        (Version.serve versions key writer begun (.ofRevision (s.lastRevision + 1)) call).2 ∧
      ((s.call key call).1 =
          (Version.serve versions key writer begun (.ofRevision (s.lastRevision + 1)) call).1 ∨
        ∃ error reason, (s.call key call).1 = .failed error ∧
          (Version.serve versions key writer begun (.ofRevision (s.lastRevision + 1)) call).1 =
            .failed reason) := by
  have newest := shows.newest
  cases versions with
  | nil =>
      have absent : s.entry? key = none := by simpa [shown?] using newest
      rw [call_of_absent absent]
      cases call with
      | get | update record presented => exact ⟨shows, .inl rfl⟩
      | create record => exact ⟨shows.put record writer begun, .inl rfl⟩
  | cons latest older =>
      obtain ⟨e, present, same⟩ : ∃ e, s.entry? key = some e ∧
          (⟨e.record, .ofRevision e.revision⟩ : Versioned Token) = latest.toVersioned := by
        simpa [shown?] using newest
      rw [call_of_present present, same]
      cases call with
      | get | create record => exact ⟨shows, .inl rfl⟩
      | update record presented =>
          have token : Token.ofRevision e.revision = latest.token := congrArg Versioned.token same
          simp only [token, Version.serve]
          split
          · exact ⟨shows.put record writer begun, .inl rfl⟩
          · exact ⟨shows, .inr ⟨_, _, rfl, rfl⟩⟩

theorem Shows.call_other (shows : s.Shows key versions) (different : other ≠ key)
    (call : StoreCall Token) : (s.call other call).2.Shows key versions := by
  cases found : s.entry? other with
  | none =>
      rw [call_of_absent found]
      cases call with
      | get | update record presented => exact shows
      | create record => exact shows.put_other different
  | some e =>
      rw [call_of_present found]
      cases call with
      | get | create record => exact shows
      | update record presented =>
          dsimp only
          split
          · exact shows.put_other different
          · exact shows

end MemoryStore

end LeaseElection
