import LeaseElection.Lock.Memory

namespace LeaseElection

theorem Token.ofRevision_injective {m n : Nat} (same : ofRevision m = ofRevision n) : m = n := by
  have text : String.ofList (Decimal.digits m) = String.ofList (Decimal.digits n) :=
    congrArg Token.text same
  exact Decimal.digits_injective (String.ofList_injective text)

/-- An entry put in front of those of other keys is the one found under its key, and no other key
has another entry than before. -/
theorem lookup_replaced {α β : Type} [BEq α] [LawfulBEq α] [DecidableEq α]
    (entries : List (α × β)) (key other : α) (value : β) :
    ((key, value) :: entries.filter fun e => e.1 ≠ key).lookup other =
      if other = key then some value else entries.lookup other := by
  by_cases own : other = key
  · simp [own]
  · have unlike : (other == key) = false := by simpa using own
    simp only [List.lookup_cons, unlike, if_neg own]
    induction entries with
    | nil => rfl
    | cons entry entries ih =>
        by_cases replaced : entry.1 = key
        · have unlike : (other == entry.1) = false := by simpa [replaced] using own
          rw [List.filter_cons_of_neg (by simp [replaced]), ih, List.lookup_cons, unlike]
        · rw [List.filter_cons_of_pos (by simp [replaced]), List.lookup_cons, List.lookup_cons, ih]

namespace MemoryStore

variable {key other : RecordKey} {s next : MemoryStore} {record : LeaseRecord}

theorem entry_put : MemoryStore.entry? (s.put key record) other =
    if other = key then some ⟨record, s.lastRevision + 1⟩ else s.entry? other :=
  lookup_replaced s.entries key other ⟨record, s.lastRevision + 1⟩

theorem put_entry : MemoryStore.entry? (s.put key record) key = some ⟨record, s.lastRevision + 1⟩ := by
  rw [entry_put, if_pos rfl]

theorem put_entry_of_ne (different : other ≠ key) :
    MemoryStore.entry? (s.put other record) key = s.entry? key := by
  rw [entry_put, if_neg different.symm]

/-- What the store holds under a key, with the token it gave out. -/
def shown? (s : MemoryStore) (key : RecordKey) : Option (Versioned Token) :=
  s.entry? key |>.map fun e => ⟨e.record, .ofRevision e.revision⟩

theorem shown?_put : (s.put key record).shown? other =
    if other = key then some ⟨record, .ofRevision (s.lastRevision + 1)⟩ else s.shown? other := by
  simp only [shown?, entry_put]
  split <;> rfl

theorem call_of_absent (absent : s.entry? key = none) (call : StoreCall Token) :
    s.call key call = match call with
      | .get | .update _ _ => (.failed (.notFound key), s)
      | .create record => (.written (.ofRevision (s.lastRevision + 1)), s.put key record) := by
  cases call <;>
    simp [MemoryStore.call, get, create, update, absent, StoreAnswer.ofRead, StoreAnswer.ofWrite]

theorem call_of_present {e : MemoryEntry} (present : s.entry? key = some e)
    (call : StoreCall Token) : s.call key call = match call with
      | .get => (.found ⟨e.record, .ofRevision e.revision⟩, s)
      | .create _ => (.failed (.alreadyExists key), s)
      | .update record presented =>
          if Token.ofRevision e.revision = presented then
            (.written (.ofRevision (s.lastRevision + 1)), s.put key record)
          else (.failed (.conflict key presented.text), s) := by
  cases call with
  | get => simp [MemoryStore.call, get, present, StoreAnswer.ofRead]
  | create record => simp [MemoryStore.call, create, present, StoreAnswer.ofWrite]
  | update record presented =>
      simp only [MemoryStore.call, update, present]
      split <;> rfl

/-- What a call does to the store: it writes where it may, or leaves everything as it was. -/
inductive Handles (s : MemoryStore) (key : RecordKey) :
    StoreCall Token → StoreAnswer Token → MemoryStore → Prop
  | creates (record : LeaseRecord) (absent : s.entry? key = none) :
      Handles s key (.create record) (.written (.ofRevision (s.lastRevision + 1))) (s.put key record)
  | replaces (record : LeaseRecord) (e : MemoryEntry) (present : s.entry? key = some e) :
      Handles s key (.update record (.ofRevision e.revision))
        (.written (.ofRevision (s.lastRevision + 1))) (s.put key record)
  | keeps (call : StoreCall Token) (answer : StoreAnswer Token)
      (unwritten : ∀ token, answer ≠ .written token) : Handles s key call answer s

theorem call_handles (s : MemoryStore) (key : RecordKey) (call : StoreCall Token) :
    s.Handles key call (s.call key call).1 (s.call key call).2 := by
  cases found : s.entry? key with
  | none =>
      rw [call_of_absent found]
      cases call with
      | get | update record presented => exact .keeps _ _ nofun
      | create record => exact .creates record found
  | some e =>
      rw [call_of_present found]
      cases call with
      | get | create record => exact .keeps _ _ nofun
      | update record presented =>
          dsimp only
          split
          next same => exact same ▸ .replaces record e found
          next => exact .keeps _ _ nofun

theorem Handles.spares {call : StoreCall Token} {answer : StoreAnswer Token}
    (handles : s.Handles key call answer next) (different : other ≠ key) :
    next.entry? other = s.entry? other := by
  cases handles with
  | creates record absent => exact put_entry_of_ne different.symm
  | replaces record e present => exact put_entry_of_ne different.symm
  | keeps call answer unwritten => rfl

theorem Handles.failed {call : StoreCall Token} {error : StoreError}
    (handles : s.Handles key call (.failed error) next) : next = s := by
  cases handles with
  | keeps call answer unwritten => rfl

end MemoryStore

end LeaseElection
