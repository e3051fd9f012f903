import LeaseElection.Proofs.Bucket.Direct
import LeaseElection.Proofs.Lock.CompareAndSwap

namespace LeaseElection.BucketStore

variable {b : Bucket} {limit : Duration} {key : RecordKey}

/-- What a bucket and the store in memory have in common, as far as these keys go. -/
structure Mirrors (b : Bucket) (m : MemoryStore) (keys : RecordKey → Prop) : Prop where
  counted : b.lastRevision = m.lastRevision
  entries : ∀ key, keys key → b.entry? key.bucketKey =
    (m.entry? key).map fun e => ⟨e.revision, .put, e.record.encode⟩

variable {m : MemoryStore} {keys : RecordKey → Prop}

theorem Mirrors.put (mirrors : Mirrors b m keys)
    (apart : ∀ other, keys other → other ≠ key → other.bucketKey ≠ key.bucketKey)
    (record : LeaseRecord) :
    Mirrors (b.record key.bucketKey .put record.encode) (m.put key record) keys where
  counted := congrArg (· + 1) mirrors.counted
  entries := by
    intro other known
    rw [Bucket.entry_record, MemoryStore.entry_put, mirrors.counted, mirrors.entries other known]
    by_cases own : other = key
    · subst own
      rw [if_pos rfl, if_pos rfl]
      rfl
    · rw [if_neg own, if_neg (apart other known own)]

theorem Mirrors.call (limit : Duration) (mirrors : Mirrors b m keys) (known : keys key)
    (apart : ∀ other, keys other → other ≠ key → other.bucketKey ≠ key.bucketKey)
    (valid : BucketKeyValid key.bucketKey) (numbered : ∀ e, m.entry? key = some e → e.revision ≠ 0)
    {call : StoreCall Token} (presents : Presents call) :
    ∃ next, (direct b limit).call key call = ((m.call key call).1, direct next limit) ∧
      Mirrors next (m.call key call).2 keys := by
  have entry := mirrors.entries key known
  cases found : m.entry? key with
  | none =>
      rw [found] at entry
      rw [call_of_absent valid entry presents, MemoryStore.call_of_absent found, mirrors.counted]
      cases call with
      | get | update record presented => exact ⟨b, rfl, mirrors⟩
      | create record => exact ⟨_, rfl, mirrors.put apart record⟩
  | some e =>
      rw [found] at entry
      rw [call_of_present valid entry (numbered e found) presents, MemoryStore.call_of_present found,
        mirrors.counted]
      cases call with
      | get | create record => exact ⟨b, rfl, mirrors⟩
      | update record presented =>
          dsimp only
          split
          · exact ⟨_, rfl, mirrors.put apart record⟩
          · exact ⟨b, rfl, mirrors⟩

/-- The store over a bucket that is empty at first and that nobody else writes to. -/
def lockStore (limit : Duration) : LockStore BucketStore := ⟨direct .empty limit, BucketStore.call⟩

/-- Calls about records whose keys the bucket takes and keeps apart, where every update presents a
token that some earlier call gave out. Revisions are 64-bit words. -/
structure Proper (limit : Duration) (calls : List KeyedCall) : Prop where
  apart : ∀ one ∈ calls, ∀ other ∈ calls, one.key ≠ other.key →
    one.key.bucketKey ≠ other.key.bucketKey
  valid : ∀ asked ∈ calls, BucketKeyValid asked.key.bucketKey
  given : ∀ asked past, asked :: past <:+ calls → ∀ record presented,
    asked.call = .update record presented → ∃ e ∈ (lockStore limit).exchanges past,
      ∃ revision : UInt64, e.token? = some presented ∧ presented = .ofRevision revision.toNat

theorem Proper.mirrors {calls past : List KeyedCall} (proper : Proper limit calls)
    (tail : past <:+ calls) :
    (lockStore limit).exchanges past = MemoryStore.lockStore.exchanges past ∧
      ∃ b, (lockStore limit).after past = direct b limit ∧
        Mirrors b (MemoryStore.lockStore.after past) fun key => ∃ asked ∈ calls, asked.key = key := by
  induction past with
  | nil => exact ⟨rfl, .empty, rfl, rfl, fun _ _ => rfl⟩
  | cons asked past ih =>
      obtain ⟨answers, b, after, mirrors⟩ := ih ((List.suffix_cons asked past).trans tail)
      have among : asked ∈ calls := tail.subset List.mem_cons_self
      have presents : Presents asked.call := by
        intro record presented update
        obtain ⟨e, before, revision, gives, rfl⟩ := proper.given asked past tail record presented update
        rw [answers] at before
        obtain ⟨given, positive, same⟩ := MemoryStore.revision_of_given before gives
        refine ⟨revision, ?_, rfl⟩
        rintro rfl
        exact positive (Token.ofRevision_injective same).symm
      have apart : ∀ other, (∃ one ∈ calls, one.key = other) → other ≠ asked.key →
          other.bucketKey ≠ asked.key.bucketKey := by
        rintro _ ⟨one, also, rfl⟩ different
        exact proper.apart one also asked among different
      have numbered := fun e found =>
        ((MemoryStore.accounts_after past).numbered asked.key e found).1
      obtain ⟨next, served, mirrored⟩ := mirrors.call limit ⟨asked, among, rfl⟩ apart
        (proper.valid asked among) numbered presents
      have here : (lockStore limit).serve ((lockStore limit).after past) asked.key asked.call = _ :=
        (congrArg (fun s => BucketStore.call s asked.key asked.call) after).trans served
      refine ⟨?_, next, congrArg Prod.snd here, mirrored⟩
      rw [LockStore.exchanges, LockStore.exchanges, LockStore.answer, here, answers]
      rfl

/-- The store in a bucket of its own answers exactly what the store in memory answers. -/
theorem refinement_kept (limit : Duration) (calls : List KeyedCall) (proper : Proper limit calls) :
    (lockStore limit).exchanges calls = MemoryStore.lockStore.exchanges calls :=
  (proper.mirrors List.suffix_rfl).1

/-- A record that is created and then replaced with the token of its creation. -/
theorem refinement_kept_replacement : ∃ calls : List KeyedCall,
    calls = [⟨⟨"ns", "lock"⟩, .update default (.ofRevision 1)⟩, ⟨⟨"ns", "lock"⟩, .create default⟩] ∧
      Proper (.ofSeconds 1) calls ∧
        (lockStore (.ofSeconds 1)).exchanges calls = MemoryStore.lockStore.exchanges calls := by
  have valid : BucketKeyValid (RecordKey.bucketKey ⟨"ns", "lock"⟩) := by decide
  have created : (lockStore (.ofSeconds 1)).answer [] ⟨⟨"ns", "lock"⟩, .create default⟩ =
      .written (.ofRevision 1) := by
    have served : (direct .empty (.ofSeconds 1)).create ⟨"ns", "lock"⟩ default = _ :=
      create_of_absent valid rfl default
    rw [LockStore.answer]
    exact congrArg (fun result => StoreAnswer.ofWrite result.1) served
  have proper : Proper (.ofSeconds 1) [⟨⟨"ns", "lock"⟩, .update default (.ofRevision 1)⟩,
      ⟨⟨"ns", "lock"⟩, .create default⟩] := by
    refine ⟨by simp, by simpa using valid, ?_⟩
    intro asked past tail record presented update
    rcases List.suffix_cons_iff.mp tail with same | earlier
    · cases same
      cases update
      refine ⟨_, List.mem_cons_self, 1, ?_, rfl⟩
      rw [Exchange.token?, created]
    · rcases List.suffix_cons_iff.mp earlier with same | earlier
      · cases same
        cases update
      · cases List.suffix_nil.mp earlier
  exact ⟨_, rfl, proper, refinement_kept _ _ proper⟩

end LeaseElection.BucketStore
