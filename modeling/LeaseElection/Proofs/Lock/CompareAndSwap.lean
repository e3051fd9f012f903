import LeaseElection.Proofs.Lock.History
import LeaseElection.Proofs.Lock.Memory

namespace LeaseElection.MemoryStore

/-- The store, as all its clones use it. -/
def lockStore : LockStore MemoryStore := ⟨.empty, MemoryStore.call⟩

/-- The store holds what this history has written. -/
structure Accounts (s : MemoryStore) (history : List Exchange) : Prop where
  shown : ∀ key, s.shown? key = lastWrite? history key
  numbered : ∀ key e, s.entry? key = some e → e.revision ≠ 0 ∧ e.revision ≤ s.lastRevision
  counted : s.lastRevision = (writes history).length
  issued : ∀ write ∈ writes history, ∃ revision, revision ≤ s.lastRevision ∧
    write.2.token = .ofRevision revision
  distinct : ((writes history).map fun write => write.2.token).Nodup
  /-- The record under the key of an update is younger than what that update replaced. -/
  spent : ∀ e ∈ history, ∀ key presented, e.Replaces key presented → ∃ revision current,
    presented = .ofRevision revision ∧ s.entry? key = some current ∧ revision < current.revision
  once : ∀ key presented, history.Pairwise fun later earlier =>
    ¬ (later.Replaces key presented ∧ earlier.Replaces key presented)

variable {s : MemoryStore} {history : List Exchange} {record : LeaseRecord} {e : Exchange}

theorem empty_accounts : empty.Accounts [] where
  shown _ := rfl
  numbered := by
    intro key e held
    cases held
  counted := rfl
  issued := by simp [writes]
  distinct := .nil
  spent := by simp
  once _ _ := .nil

theorem Accounts.kept (accounts : s.Accounts history) (unwritten : ∀ token, e.answer ≠ .written token) :
    s.Accounts (e :: history) := by
  have written : e.written? = none := by
    unfold Exchange.written?
    split
    next given => exact absurd given (unwritten _)
    next given => exact absurd given (unwritten _)
    next => rfl
  have fails : ∀ key presented, ¬ e.Replaces key presented := by
    rintro key presented ⟨-, record, given, -, answered⟩
    exact unwritten given answered
  have same : writes (e :: history) = writes history := writes_cons_unwritten written
  refine ⟨?_, accounts.numbered, ?_, ?_, ?_, ?_, ?_⟩
  · intro key
    rw [accounts.shown, lastWrite?, lastWrite?, same]
  · rw [accounts.counted, same]
  · rw [same]
    exact accounts.issued
  · rw [same]
    exact accounts.distinct
  · intro other among key presented replaces
    rcases List.mem_cons.mp among with rfl | before
    · exact absurd replaces (fails key presented)
    · exact accounts.spent other before key presented replaces
  · intro key presented
    exact .cons (fun _ _ both => fails key presented both.1) (accounts.once key presented)

theorem Accounts.fresh (accounts : s.Accounts history) :
    ∀ write ∈ writes history, write.2.token ≠ .ofRevision (s.lastRevision + 1) := by
  intro write among same
  obtain ⟨revision, old, token⟩ := accounts.issued write among
  have one := Token.ofRevision_injective (token.symm.trans same)
  omega

/-- What was ever replaced under a key has a revision that was drawn by now. -/
theorem Accounts.spent_le (accounts : s.Accounts history) {key : RecordKey} {presented : Token}
    (among : e ∈ history) (replaces : e.Replaces key presented) :
    ∃ revision, presented = .ofRevision revision ∧ revision ≤ s.lastRevision := by
  obtain ⟨revision, held, token, found, less⟩ := accounts.spent e among key presented replaces
  have bound := (accounts.numbered key held found).2
  exact ⟨revision, token, by omega⟩

/-- A write under the next revision, which replaces what the store holds if it replaces anything. -/
theorem Accounts.put (accounts : s.Accounts history)
    (written : e.written? = some ⟨record, .ofRevision (s.lastRevision + 1)⟩)
    (current : ∀ key presented, e.Replaces key presented → ∃ held,
      s.entry? key = some held ∧ presented = .ofRevision held.revision) :
    (s.put e.key record).Accounts (e :: history) where
  shown := by
    intro key
    rw [shown?_put, lastWrite?_cons_written written, accounts.shown]
  numbered := by
    intro key found held
    rw [entry_put] at held
    split at held
    · cases held
      exact ⟨Nat.succ_ne_zero _, Nat.le_refl _⟩
    · obtain ⟨positive, old⟩ := accounts.numbered key found held
      exact ⟨positive, Nat.le_succ_of_le old⟩
  counted := by
    rw [writes_cons_written written, List.length_cons, ← accounts.counted]
    rfl
  issued := by
    intro write among
    rw [writes_cons_written written] at among
    rcases List.mem_cons.mp among with rfl | before
    · exact ⟨s.lastRevision + 1, Nat.le_refl _, rfl⟩
    · obtain ⟨revision, old, token⟩ := accounts.issued write before
      exact ⟨revision, Nat.le_succ_of_le old, token⟩
  distinct := by
    rw [writes_cons_written written, List.map_cons]
    refine List.nodup_cons.mpr ⟨?_, accounts.distinct⟩
    intro among
    obtain ⟨write, before, same⟩ := List.mem_map.mp among
    exact accounts.fresh write before same
  spent := by
    intro other among key presented replaces
    by_cases mine : key = e.key
    · have drawn : ∃ revision, presented = .ofRevision revision ∧ revision ≤ s.lastRevision := by
        rcases List.mem_cons.mp among with rfl | before
        · obtain ⟨held, found, rfl⟩ := current key presented replaces
          exact ⟨held.revision, rfl, (accounts.numbered key held found).2⟩
        · exact accounts.spent_le before replaces
      obtain ⟨revision, token, old⟩ := drawn
      refine ⟨revision, ⟨record, s.lastRevision + 1⟩, token, ?_, Nat.lt_succ_of_le old⟩
      rw [entry_put, if_pos mine]
    · have before : other ∈ history := by
        rcases List.mem_cons.mp among with rfl | before
        · exact absurd replaces.1.symm mine
        · exact before
      obtain ⟨revision, held, token, found, less⟩ :=
        accounts.spent other before key presented replaces
      refine ⟨revision, held, token, ?_, less⟩
      rw [entry_put, if_neg mine, found]
  once := by
    intro key presented
    refine .cons ?_ (accounts.once key presented)
    rintro other before ⟨replaces, replaced⟩
    obtain ⟨held, found, token⟩ := current key presented replaces
    obtain ⟨revision, now, old, present, less⟩ :=
      accounts.spent other before key presented replaced
    have one := Token.ofRevision_injective (token.symm.trans old)
    rw [found] at present
    cases present
    omega

theorem Accounts.serve (accounts : s.Accounts history) (asked : KeyedCall) :
    (s.call asked.key asked.call).2.Accounts
      (⟨asked, (s.call asked.key asked.call).1⟩ :: history) := by
  have handles := s.call_handles asked.key asked.call
  generalize s.call asked.key asked.call = result at handles ⊢
  obtain ⟨key, call⟩ := asked
  obtain ⟨answer, next⟩ := result
  cases handles with
  | creates record absent =>
      refine accounts.put (e := ⟨⟨key, .create record⟩, _⟩) rfl ?_
      rintro _ _ ⟨-, _, _, update, -⟩
      cases update
  | replaces record held present =>
      refine accounts.put (e := ⟨⟨key, .update record (.ofRevision held.revision)⟩, _⟩) rfl ?_
      rintro _ _ ⟨rfl, _, _, update, -⟩
      cases update
      exact ⟨held, present, rfl⟩
  | keeps call answer unwritten => exact accounts.kept unwritten

theorem accounts_after (calls : List KeyedCall) :
    (lockStore.after calls).Accounts (lockStore.exchanges calls) := by
  induction calls with
  | nil => exact empty_accounts
  | cons asked past ih => exact ih.serve asked

theorem Accounts.gives (accounts : s.Accounts history) {key : RecordKey} {call : StoreCall Token}
    {token : Token} (gives : Exchange.token? ⟨⟨key, call⟩, (s.call key call).1⟩ = some token) :
    ∃ revision, revision ≠ 0 ∧ token = .ofRevision revision := by
  cases found : s.entry? key with
  | none =>
      rw [call_of_absent found] at gives
      cases call with
      | get | update record presented => cases gives
      | create record =>
          cases gives
          exact ⟨s.lastRevision + 1, Nat.succ_ne_zero _, rfl⟩
  | some e =>
      rw [call_of_present found] at gives
      cases call with
      | get =>
          cases gives
          exact ⟨e.revision, (accounts.numbered key e found).1, rfl⟩
      | create record => cases gives
      | update record presented =>
          dsimp only at gives
          split at gives
          · cases gives
            exact ⟨s.lastRevision + 1, Nat.succ_ne_zero _, rfl⟩
          · cases gives

theorem revision_of_given {calls : List KeyedCall} {token : Token}
    (among : e ∈ lockStore.exchanges calls) (gives : e.token? = some token) :
    ∃ revision, revision ≠ 0 ∧ token = .ofRevision revision := by
  induction calls with
  | nil => cases among
  | cons asked past ih =>
      rcases List.mem_cons.mp among with rfl | before
      · exact (accounts_after past).gives gives
      · exact ih before

/-- What becomes of one more call after these. -/
structure ComparesAndSwaps (past : List KeyedCall) (asked : KeyedCall) : Prop where
  shown : ∀ key, (lockStore.after past).shown? key = lastWrite? (lockStore.exchanges past) key
  creates : ∀ record, asked.call = .create record →
    ((∃ token, lockStore.answer past asked = .written token) ↔
      entry? (lockStore.after past) asked.key = none)
  updates : ∀ record presented, asked.call = .update record presented →
    ((∃ token, lockStore.answer past asked = .written token) ↔
      entry? (lockStore.after past) asked.key ≠ none ∧
        ∃ last, lastWrite? (lockStore.exchanges past) asked.key = some last ∧
          presented.text = last.token.text)
  reads : asked.call = .get → lockStore.answer past asked =
    match lastWrite? (lockStore.exchanges past) asked.key with
    | some last => .found last
    | none => .failed (.notFound asked.key)
  fails : (∃ error, lockStore.answer past asked = .failed error) →
    lockStore.after (asked :: past) = lockStore.after past
  spares : ∀ other, other ≠ asked.key →
    entry? (lockStore.after (asked :: past)) other = entry? (lockStore.after past) other
  distinct : ((writes (lockStore.exchanges (asked :: past))).map fun write => write.2.token).Nodup
  /-- Of two updates of a key for which the same token was presented, not both were successful. -/
  once : ∀ key presented, (lockStore.exchanges (asked :: past)).Pairwise fun later earlier =>
    ¬ (later.Replaces key presented ∧ earlier.Replaces key presented)
  /-- The counter of revisions is a 64-bit word, and so is the revision of every token. -/
  words : (lockStore.after (asked :: past)).lastRevision < UInt64.size ∧
    ∀ write ∈ writes (lockStore.exchanges (asked :: past)), ∃ revision : UInt64,
      write.2.token = .ofRevision revision.toNat

theorem written_iff_absent (s : MemoryStore) (key : RecordKey) (record : LeaseRecord) :
    (∃ token, (s.call key (.create record)).1 = .written token) ↔ s.entry? key = none := by
  cases found : s.entry? key with
  | none => simp [call_of_absent found]
  | some e => simp [call_of_present found]

theorem written_iff_shown (s : MemoryStore) (key : RecordKey) (record : LeaseRecord)
    (presented : Token) :
    (∃ token, (s.call key (.update record presented)).1 = .written token) ↔
      s.entry? key ≠ none ∧ ∃ last, s.shown? key = some last ∧ presented.text = last.token.text := by
  cases found : s.entry? key with
  | none => simp [call_of_absent found]
  | some e =>
      have shown : s.shown? key = some ⟨e.record, .ofRevision e.revision⟩ := by
        rw [shown?, found, Option.map_some]
      rw [call_of_present found, shown]
      by_cases same : Token.ofRevision e.revision = presented
      · simp [← same]
      · have apart : presented.text ≠ (Token.ofRevision e.revision).text :=
          fun text => same (congrArg Token.mk text.symm)
        simp [same, apart]

theorem get_eq_shown (s : MemoryStore) (key : RecordKey) : (s.call key .get).1 =
    match s.shown? key with
    | some current => .found current
    | none => .failed (.notFound key) := by
  cases found : s.entry? key with
  | none => simp [call_of_absent found, shown?, found]
  | some e => simp [call_of_present found, shown?, found]

/-- As long as there are revisions left, the store compares and swaps, whatever was asked of it before
and about which records. -/
theorem compare_and_swap_kept (past : List KeyedCall) (asked : KeyedCall)
    (few : (writes (lockStore.exchanges (asked :: past))).length < UInt64.size) :
    ComparesAndSwaps past asked := by
  have before := accounts_after past
  have now := accounts_after (asked :: past)
  have handles := (lockStore.after past).call_handles asked.key asked.call
  have bound : (lockStore.after (asked :: past)).lastRevision < UInt64.size := by
    rw [now.counted]
    exact few
  refine {
    shown := before.shown
    creates := ?creates
    updates := ?updates
    reads := ?reads
    fails := ?fails
    spares := fun other different => handles.spares different
    distinct := now.distinct
    once := now.once
    words := ⟨bound, ?words⟩ }
  case creates =>
    intro record create
    rw [← written_iff_absent _ asked.key record, ← create]
    rfl
  case updates =>
    intro record presented update
    rw [← before.shown, ← written_iff_shown _ asked.key record, ← update]
    rfl
  case reads =>
    intro get
    have read := get_eq_shown (lockStore.after past) asked.key
    rw [before.shown, ← get] at read
    exact read
  case fails =>
    rintro ⟨error, failed⟩
    have same : ((lockStore.after past).call asked.key asked.call).1 = .failed error := failed
    rw [same] at handles
    exact handles.failed
  case words =>
    intro write among
    obtain ⟨revision, old, token⟩ := now.issued write among
    refine ⟨UInt64.ofNat revision, ?_⟩
    rw [token, UInt64.toNat_ofNat_of_lt' (by omega)]

/-- A record that was created is replaced by somebody who presents its token. -/
theorem compare_and_swap_kept_replacement :
    lockStore.answer [⟨⟨"ns", "lock"⟩, .create default⟩]
        ⟨⟨"ns", "lock"⟩, .update default (.ofRevision 1)⟩ = .written (.ofRevision 2) ∧
      ComparesAndSwaps [⟨⟨"ns", "lock"⟩, .create default⟩]
        ⟨⟨"ns", "lock"⟩, .update default (.ofRevision 1)⟩ := by
  constructor
  · have present : entry? (lockStore.after [⟨⟨"ns", "lock"⟩, .create default⟩]) ⟨"ns", "lock"⟩ =
        some ⟨default, 1⟩ := rfl
    have served := call_of_present present (.update default (.ofRevision 1))
    exact congrArg Prod.fst (served.trans (if_pos rfl))
  · exact compare_and_swap_kept _ _ (Nat.lt_of_le_of_lt (lockStore.length_writes_le _) (by decide))

end LeaseElection.MemoryStore
