import LeaseElection.Election.Resolution
import LeaseElection.Proofs.Bucket.Direct
import LeaseElection.Proofs.Bucket.Key

namespace LeaseElection

def BucketChange.key : BucketChange → String
  | .put key _ | .delete key | .purge key => key

/-- What others do before this request arrives leaves the key alone. -/
def RequestFault.Spares (key : String) (fault : RequestFault) : Prop :=
  ∀ change ∈ fault.before, change.key ≠ key

theorem RequestFault.none_spares (key : String) : RequestFault.none.Spares key := nofun

namespace BucketLine

variable {l : BucketLine} {key other value : String} {expected : Nat} {entry : Option BucketEntry}

theorem entry_change (b : Bucket) {change : BucketChange} (apart : change.key ≠ other) :
    Bucket.entry? (b.change change) other = b.entry? other := by
  cases change with
  | put key value | delete key | purge key =>
      exact Bucket.entry_record.trans (if_neg (Ne.symm apart))

theorem entry_precede (b : Bucket) {fault : RequestFault} (spares : fault.Spares other) :
    Bucket.entry? (precede b fault) other = b.entry? other := by
  obtain ⟨before, fate⟩ := fault
  unfold RequestFault.Spares at spares
  unfold precede
  induction before generalizing b with
  | nil => rfl
  | cons first before ih =>
      obtain ⟨apart, rest⟩ := List.forall_mem_cons.mp spares
      exact (ih (b.change first) rest).trans (entry_change b apart)

theorem headD_spares {faults : List RequestFault} (spares : ∀ fault ∈ faults, fault.Spares other) :
    (faults.headD .none).Spares other := by
  cases faults with
  | nil => exact RequestFault.none_spares other
  | cons first rest => exact spares first List.mem_cons_self

/-- The bucket has this entry under the key, and nobody is going to change it in the course of the
next requests. -/
structure Spares (key : String) (entry : Option BucketEntry) (l : BucketLine) : Prop where
  entry : l.bucket.entry? key = entry
  reads : ∀ fault ∈ l.reads, fault.Spares key
  writes : ∀ fault ∈ l.writes, fault.Spares key

namespace Spares

theorem atRead (spares : l.Spares other entry) : l.atRead.entry? other = entry :=
  (entry_precede l.bucket (headD_spares spares.reads)).trans spares.entry

theorem atWrite (spares : l.Spares other entry) : l.atWrite.entry? other = entry :=
  (entry_precede l.bucket (headD_spares spares.writes)).trans spares.entry

theorem read (spares : l.Spares other entry) (key : String) :
    (l.read key).2.Spares other entry := by
  have reads : (l.read key).2.reads = l.reads.tail := by
    dsimp only [BucketLine.read]
    cases (l.reads.headD .none).fate <;> rfl
  have writes : (l.read key).2.writes = l.writes := by
    dsimp only [BucketLine.read]
    cases (l.reads.headD .none).fate <;> rfl
  refine ⟨?_, ?_, ?_⟩
  · rw [read_bucket]
    exact spares.atRead
  · rw [reads]
    exact fun fault member => spares.reads fault (List.mem_of_mem_tail member)
  · rw [writes]
    exact spares.writes

theorem write (spares : l.Spares other entry) (apart : other ≠ key) :
    (l.write key value expected).2.Spares other entry := by
  have reads : (l.write key value expected).2.reads = l.reads := by
    dsimp only [BucketLine.write]
    cases (l.writes.headD .none).fate <;> rfl
  have writes : (l.write key value expected).2.writes = l.writes.tail := by
    dsimp only [BucketLine.write]
    cases (l.writes.headD .none).fate <;> rfl
  have unwritten := spares.atWrite
  refine ⟨?_, ?_, ?_⟩
  · have outcome := l.write_writes key value expected
    generalize (l.write key value expected).1 = reply at outcome
    generalize (l.write key value expected).2.bucket = next at outcome
    cases outcome with
    | acknowledged current | unnoticed current =>
        rw [Bucket.entry_record, if_neg apart]
        exact unwritten
    | rejected superseded => exact unwritten
    | undone reply unanswered => exact unwritten
  · rw [reads]
    exact spares.reads
  · rw [writes]
    exact fun fault member => spares.writes fault (List.mem_of_mem_tail member)

theorem get (spares : l.Spares other entry) (key : String) : (l.get key).2.Spares other entry := by
  by_cases valid : BucketKeyValid key
  · rw [get_line valid]
    exact spares.read key
  · rw [BucketLine.get, if_pos valid]
    exact spares

/-- A key that the bucket does not take is written to in vain. -/
theorem update (spares : l.Spares other entry) (apart : BucketKeyValid key → other ≠ key) :
    (l.update key value expected).2.Spares other entry := by
  by_cases valid : BucketKeyValid key
  · rw [update_line valid]
    exact spares.write (apart valid)
  · rw [BucketLine.update, if_pos valid]
    exact spares

theorem create (spares : l.Spares other entry) (apart : BucketKeyValid key → other ≠ key) :
    (l.create key value).2.Spares other entry := by
  have first : (l.update key value 0).2.Spares other entry := spares.update apart
  have between : ((l.update key value 0).2.get key).2.Spares other entry := first.get key
  unfold BucketLine.create
  split
  next error after updated =>
    rw [updated] at between
    dsimp only at between
    split
    next current after got =>
      rw [got] at between
      split
      · exact between
      · exact between.update apart
    next after got =>
      rw [got] at between
      exact between
    next e after got =>
      rw [got] at between
      exact between
    next after got =>
      rw [got] at between
      exact between
  next => exact first

end Spares

end BucketLine

namespace BucketStore

variable {s : BucketStore} {key other : RecordKey} {bucketKey : String} {entry : Option BucketEntry}
  {limit : Duration}

structure Spares (other : RecordKey) (entry : Option BucketEntry) (limit : Duration)
    (s : BucketStore) : Prop where
  line : s.line.Spares other.bucketKey entry
  limit : s.timeLimit = limit

/-- The bucket keeps the two records under different keys, or does not take the key of the first. -/
def Apart (key other : RecordKey) : Prop := BucketKeyValid key.bucketKey → ¬ key.Meets other

theorem Apart.bucketKey_ne (apart : Apart key other) (valid : BucketKeyValid key.bucketKey) :
    other.bucketKey ≠ key.bucketKey :=
  fun same => apart valid (RecordKey.bucketKey_eq_iff.mp same.symm)

namespace Spares

theorem read (spares : s.Spares other entry limit) (bucketKey : String) :
    (s.read bucketKey).2.Spares other entry limit := by
  rw [read_store]
  exact ⟨spares.line.get bucketKey, spares.limit⟩

theorem get (spares : s.Spares other entry limit) (key : RecordKey) :
    (s.get key).2.Spares other entry limit := by
  have read := spares.read key.bucketKey
  unfold BucketStore.get
  split <;> simp_all

theorem conclude (spares : s.Spares other entry limit) (what bucketKey : String)
    (ending : Ending Nat) (blame : Option Nat → StoreError → StoreError) :
    (s.conclude what bucketKey ending blame).2.Spares other entry limit := by
  unfold BucketStore.conclude
  split
  · exact spares
  · exact spares.read bucketKey

theorem create (spares : s.Spares other entry limit) (apart : Apart key other)
    (record : LeaseRecord) : (s.create key record).2.Spares other entry limit := by
  have created : Spares other entry limit
      { s with line := (s.line.create key.bucketKey record.encode).2 } :=
    ⟨spares.line.create apart.bucketKey_ne, spares.limit⟩
  rw [create_eq]
  exact created.conclude _ _ _ _

theorem update (spares : s.Spares other entry limit) (apart : Apart key other)
    (record : LeaseRecord) (token : Token) :
    (s.update key record token).2.Spares other entry limit := by
  cases word : tokenRevision? token with
  | none =>
      unfold BucketStore.update
      rw [word]
      exact spares
  | some expected =>
      have updated : Spares other entry limit
          { s with line := (s.line.update key.bucketKey record.encode expected).2 } :=
        ⟨spares.line.update apart.bucketKey_ne, spares.limit⟩
      rw [update_eq word]
      exact updated.conclude _ _ _ _

theorem call (spares : s.Spares other entry limit) (apart : Apart key other)
    (call : StoreCall Token) : (s.call key call).2.Spares other entry limit := by
  cases call with
  | get => simpa only [call_get] using spares.get key
  | create record => simpa only [call_create] using spares.create apart record
  | update record token => simpa only [call_update] using spares.update apart record token

end Spares

/-- The store once these calls about a record were made. -/
def after (s : BucketStore) (key : RecordKey) (calls : List (StoreCall Token)) : BucketStore :=
  calls.foldl (fun s call => (s.call key call).2) s

theorem Spares.after (spares : s.Spares other entry limit) (apart : Apart key other)
    (calls : List (StoreCall Token)) : (s.after key calls).Spares other entry limit := by
  induction calls generalizing s with
  | nil => exact spares
  | cons first calls ih => exact ih (spares.call apart first)

/-- The store when this is going to befall its next reads. -/
def facing (s : BucketStore) (reads : List RequestFault) : BucketStore :=
  { s with line := { s.line with reads } }

/-- What a read tells depends on what befalls it and on the entry that it finds. -/
theorem get_congr {next : BucketStore} (limits : s.timeLimit = next.timeLimit)
    (reads : s.line.reads = next.line.reads)
    (found : s.line.atRead.entry? other.bucketKey = next.line.atRead.entry? other.bucketKey) :
    (s.get other).1 = (next.get other).1 := by
  have replies : (s.line.read other.bucketKey).1 = (next.line.read other.bucketKey).1 := by
    unfold BucketLine.atRead at found
    dsimp only [BucketLine.read]
    rw [reads] at found ⊢
    rw [found]
    cases (next.line.reads.headD .none).fate <;> rfl
  have endings : (s.line.get other.bucketKey).1 = (next.line.get other.bucketKey).1 := by
    by_cases valid : BucketKeyValid other.bucketKey
    · rw [BucketLine.get_of_valid valid, BucketLine.get_of_valid valid]
      generalize s.line.read other.bucketKey = one at replies
      generalize next.line.read other.bucketKey = two at replies
      obtain ⟨reply, line⟩ := one
      obtain ⟨_, nextLine⟩ := two
      cases replies
      cases reply <;> rfl
    · rw [BucketLine.get, BucketLine.get, if_pos valid, if_pos valid]
  have results : (s.read other.bucketKey).1 = (next.read other.bucketKey).1 := by
    simp only [read, report, endings, limits]
  unfold get
  generalize s.read other.bucketKey = one at results
  generalize next.read other.bucketKey = two at results
  obtain ⟨result, after⟩ := one
  obtain ⟨_, nextAfter⟩ := two
  cases results
  cases result with
  | error e => rfl
  | ok current => cases current <;> rfl

/-- Whatever is asked for about one record, a later read of the other is answered as it would have
been before, whatever befalls it, as long as nobody else changes that record. -/
def Isolated (key other : RecordKey) : Prop :=
  ∀ (s : BucketStore) (calls : List (StoreCall Token)) (reads : List RequestFault),
    (∀ fault ∈ s.line.reads ++ s.line.writes ++ reads, fault.Spares other.bucketKey) →
      (((s.after key calls).facing reads).get other).1 = ((s.facing reads).get other).1

theorem Apart.isolated (apart : Apart key other) : Isolated key other := by
  intro s calls reads spared
  simp only [List.mem_append] at spared
  have before : s.Spares other _ s.timeLimit :=
    ⟨⟨rfl, fun fault member => spared fault (.inl (.inl member)),
      fun fault member => spared fault (.inl (.inr member))⟩, rfl⟩
  have after := before.after apart calls
  have undisturbed : (reads.headD .none).Spares other.bucketKey :=
    BucketLine.headD_spares fun fault member => spared fault (.inr member)
  have found (bucket : Bucket) :
      Bucket.entry? (BucketLine.precede bucket (reads.headD .none)) other.bucketKey =
        bucket.entry? other.bucketKey := BucketLine.entry_precede bucket undisturbed
  exact get_congr after.limit rfl
    ((found _).trans (after.line.entry.trans (found s.line.bucket).symm))

/-- A record that is created where there is none turns up under every key that meets its own. -/
theorem not_isolated (valid : BucketKeyValid key.bucketKey) (meets : key.Meets other) :
    ¬ Isolated key other := by
  intro isolated
  have limit : Duration := .ofSeconds 1
  have same := RecordKey.bucketKey_eq_iff.mpr meets
  have otherValid : BucketKeyValid other.bucketKey := same ▸ valid
  have created : (direct .empty limit).after key [.create default] =
      direct (Bucket.empty.record other.bucketKey .put (default : LeaseRecord).encode) limit := by
    rw [after, List.foldl_cons, List.foldl_nil, call_create, create_of_absent valid rfl, same]
  have absent : ((direct .empty limit).get other).1 = .error (.notFound other) := by
    rw [get, read_of_absent limit otherValid rfl]
  have present : ((direct (Bucket.empty.record other.bucketKey .put (default : LeaseRecord).encode)
      limit).get other).1 = .ok ⟨default, .ofRevision 1⟩ := by
    rw [get, read_of_present limit otherValid (Bucket.entry_record.trans (if_pos rfl))]
    rfl
  have told := isolated (direct .empty limit) [.create default] []
    (by simp [direct, BucketLine.clear])
  rw [created] at told
  cases absent.symm.trans (told.symm.trans present)

theorem isolated_of_clean (clean : key.Clean) (otherClean : other.Clean) (different : key ≠ other) :
    Isolated key other :=
  Apart.isolated fun _ meets => different (clean.eq_of_meets otherClean meets)

/-- Elections are isolated unless the bucket keeps their records under one key that it takes. -/
theorem isolation_kept (key other : RecordKey) :
    (key.bucketKey = other.bucketKey ↔ key.Meets other) ∧
      (Isolated key other ↔ ¬ (BucketKeyValid key.bucketKey ∧ key.Meets other)) := by
  refine ⟨RecordKey.bucketKey_eq_iff, ?_, ?_⟩
  · rintro isolated ⟨valid, meets⟩
    exact not_isolated valid meets isolated
  · intro apart
    exact Apart.isolated fun valid meets => apart ⟨valid, meets⟩

/-- Two different elections, one in the namespace `team a` and one in `team_a`, that share their
record. -/
theorem isolation_broken : ∃ (one other : ElectionConfig) (surroundings : Surroundings),
    one.resolve surroundings = .ok one ∧ other.resolve surroundings = .ok other ∧
      one.key = ⟨"team a", "lock"⟩ ∧ other.key = ⟨"team_a", "lock"⟩ ∧
        ¬ Isolated one.key other.key := by
  refine ⟨{ ElectionConfig.default with identity := "a", nameSpace := "team a", name := "lock" },
    { ElectionConfig.default with identity := "a", nameSpace := "team_a", name := "lock" },
    ⟨.ok "host", "1", fun _ => .error "absent"⟩, ?_, ?_, rfl, rfl, ?_⟩
  · rfl
  · rfl
  · exact not_isolated (by decide) (by decide)

end BucketStore

end LeaseElection
