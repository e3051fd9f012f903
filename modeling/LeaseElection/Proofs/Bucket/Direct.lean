import LeaseElection.Proofs.Bucket.Store
import LeaseElection.Proofs.Lease.Layout

namespace LeaseElection.BucketStore

/-- The text of a token is that of a 64-bit word: digits, perhaps with a plus sign in front. -/
def IsWord (token : Token) : Prop :=
  ∃ digits : List Char, (token.text.toList = digits ∨ token.text.toList = '+' :: digits) ∧
    digits ≠ [] ∧ (∀ c ∈ digits, c.isDigit = true) ∧ Decimal.value digits < UInt64.size

theorem tokenRevision?_ofRevision {n : Nat} (word : n < UInt64.size) :
    tokenRevision? (.ofRevision n) = some n := by
  have text : (Token.ofRevision n).text.toList = Decimal.digits n := String.toList_ofList
  unfold tokenRevision?
  rw [text]
  split
  next rest signed =>
    have digit := Decimal.isDigit_of_mem_digits n '+' (by rw [signed]; exact List.mem_cons_self)
    exact absurd digit (by decide)
  next => simp [Decimal.natural?_digits, word]

theorem isWord_of_tokenRevision? {token : Token} {n : Nat} (read : tokenRevision? token = some n) :
    IsWord token := by
  have word {cs : List Char} (read : (Decimal.natural? cs).filter (· < UInt64.size) = some n) :
      cs ≠ [] ∧ (∀ c ∈ cs, c.isDigit = true) ∧ Decimal.value cs < UInt64.size := by
    obtain ⟨natural, small⟩ := Option.filter_eq_some_iff.mp read
    unfold Decimal.natural? at natural
    split at natural
    next digits =>
      cases natural
      exact ⟨digits.1, List.all_eq_true.mp digits.2, of_decide_eq_true small⟩
    next => cases natural
  unfold tokenRevision? at read
  split at read
  next rest signed => exact ⟨rest, .inr signed, word read⟩
  next => exact ⟨_, .inl rfl, word read⟩

variable {b : Bucket} {limit : Duration} {key : RecordKey}

/-- The store over this bucket, with nothing in the way. -/
def direct (b : Bucket) (limit : Duration) : BucketStore := ⟨.clear b, limit⟩

/-- An update presents the token of a revision. -/
def Presents (call : StoreCall Token) : Prop :=
  ∀ record presented, call = .update record presented →
    ∃ revision : UInt64, revision ≠ 0 ∧ presented = .ofRevision revision.toNat

theorem read_unchanged (limit : Duration) (valid : BucketKeyValid key.bucketKey) :
    ((direct b limit).read key.bucketKey).2 = direct b limit := by
  rw [read_store, direct, BucketLine.get_clear valid]

theorem read_of_absent (limit : Duration) (valid : BucketKeyValid key.bucketKey)
    (absent : b.entry? key.bucketKey = none) :
    (direct b limit).read key.bucketKey = (.ok none, direct b limit) := by
  refine Prod.ext ?_ (read_unchanged limit valid)
  simp only [read, direct, BucketLine.get_clear valid, absent, report]

theorem read_of_present (limit : Duration) (valid : BucketKeyValid key.bucketKey)
    {record : LeaseRecord} {revision : Nat}
    (present : b.entry? key.bucketKey = some ⟨revision, .put, record.encode⟩) :
    (direct b limit).read key.bucketKey = (.ok (some (record, revision)), direct b limit) := by
  have decoded : LeaseRecord.decode record.encode = .ok record := record.decodeGlyphs_encode
  have answered : ((direct b limit).line.read key.bucketKey).1 =
      .answer (some ⟨revision, .put, record.encode⟩) := congrArg Reply.answer present
  exact Prod.ext (read_of_answer valid answered rfl decoded) (read_unchanged limit valid)

theorem update_of_current (valid : BucketKeyValid key.bucketKey) {revision : UInt64}
    (current : b.revision key.bucketKey = revision.toNat) (record : LeaseRecord) :
    (direct b limit).update key record (.ofRevision revision.toNat) =
      (.ok (.ofRevision (b.lastRevision + 1)),
        direct (b.record key.bucketKey .put record.encode) limit) := by
  have updated : (BucketLine.clear b).update key.bucketKey record.encode revision.toNat = _ :=
    (BucketLine.update_clear valid).trans (if_pos current)
  rw [update_eq (tokenRevision?_ofRevision revision.toNat_lt), direct]
  dsimp only
  rw [updated]
  rfl

/-- An update with a revision that is not the current one is told of what is there. -/
theorem update_of_other (valid : BucketKeyValid key.bucketKey) {revision : UInt64}
    (other : b.revision key.bucketKey ≠ revision.toNat) (record : LeaseRecord)
    {current : Option (LeaseRecord × Nat)}
    (read : (direct b limit).read key.bucketKey = (.ok current, direct b limit))
    (newer : ∀ held found, current = some (held, found) → found ≠ revision.toNat) :
    (direct b limit).update key record (.ofRevision revision.toNat) =
      (.error (if current = none then .notFound key
        else .conflict key (Token.ofRevision revision.toNat).text), direct b limit) := by
  have refused : (BucketLine.clear b).update key.bucketKey record.encode revision.toNat = _ :=
    (BucketLine.update_clear valid).trans (if_neg other)
  unfold direct at read
  rw [update_eq (tokenRevision?_ofRevision revision.toNat_lt), direct]
  dsimp only
  rw [refused, conclude]
  simp only [report, read]
  cases current with
  | none => rfl
  | some current =>
      have apart := newer current.1 current.2 rfl
      simp [Except.bind, updateBlame, apart]

theorem create_of_absent (valid : BucketKeyValid key.bucketKey)
    (absent : b.entry? key.bucketKey = none) (record : LeaseRecord) :
    (direct b limit).create key record = (.ok (.ofRevision (b.lastRevision + 1)),
      direct (b.record key.bucketKey .put record.encode) limit) := by
  rw [create_eq, direct]
  dsimp only
  rw [BucketLine.create_clear_of_absent valid absent]
  rfl

theorem create_of_present (valid : BucketKeyValid key.bucketKey) {held : LeaseRecord} {revision : Nat}
    (present : b.entry? key.bucketKey = some ⟨revision, .put, held.encode⟩) (numbered : revision ≠ 0)
    (record : LeaseRecord) : (direct b limit).create key record =
      (.error (.alreadyExists key), direct b limit) := by
  have read := read_of_present limit valid present
  unfold direct at read
  rw [create_eq, direct]
  dsimp only
  rw [BucketLine.create_clear_of_live valid present rfl numbered, conclude]
  simp only [report, read]
  rfl

theorem call_of_absent (valid : BucketKeyValid key.bucketKey)
    (absent : b.entry? key.bucketKey = none) {call : StoreCall Token} (presents : Presents call) :
    (direct b limit).call key call = match call with
      | .get | .update _ _ => (.failed (.notFound key), direct b limit)
      | .create record => (.written (.ofRevision (b.lastRevision + 1)),
          direct (b.record key.bucketKey .put record.encode) limit) := by
  have read := read_of_absent limit valid absent
  cases call with
  | get => simp only [call_get, get, read, StoreAnswer.ofRead]
  | create record =>
      simp only [call_create, create_of_absent valid absent record, StoreAnswer.ofWrite]
  | update record presented =>
      obtain ⟨revision, positive, rfl⟩ := presents record presented rfl
      have other : b.revision key.bucketKey ≠ revision.toNat := by
        rw [Bucket.revision_of_absent absent]
        intro same
        exact positive (UInt64.toNat_inj.mp same.symm)
      simp only [call_update, update_of_other valid other record read (by simp), if_true,
        StoreAnswer.ofWrite]

theorem call_of_present (valid : BucketKeyValid key.bucketKey) {held : LeaseRecord} {revision : Nat}
    (present : b.entry? key.bucketKey = some ⟨revision, .put, held.encode⟩) (numbered : revision ≠ 0)
    {call : StoreCall Token} (presents : Presents call) :
    (direct b limit).call key call = match call with
      | .get => (.found ⟨held, .ofRevision revision⟩, direct b limit)
      | .create _ => (.failed (.alreadyExists key), direct b limit)
      | .update record presented =>
          if Token.ofRevision revision = presented then
            (.written (.ofRevision (b.lastRevision + 1)),
              direct (b.record key.bucketKey .put record.encode) limit)
          else (.failed (.conflict key presented.text), direct b limit) := by
  have read := read_of_present limit valid present
  cases call with
  | get => simp only [call_get, get, read, StoreAnswer.ofRead]
  | create record =>
      simp only [call_create, create_of_present valid present numbered record, StoreAnswer.ofWrite]
  | update record presented =>
      obtain ⟨expected, -, rfl⟩ := presents record presented rfl
      have latest := Bucket.revision_of_present present
      by_cases same : revision = expected.toNat
      · subst same
        simp only [call_update, update_of_current valid latest record, if_true, StoreAnswer.ofWrite]
      · have apart : Token.ofRevision revision ≠ .ofRevision expected.toNat :=
          fun one => same (Token.ofRevision_injective one)
        have newer : ∀ record found, some (held, revision) = some (record, found) →
            found ≠ expected.toNat := by
          rintro _ _ ⟨⟩
          exact same
        have other : b.revision key.bucketKey ≠ expected.toNat := by
          rw [latest]
          exact same
        simp only [call_update, update_of_other valid other record read newer, reduceCtorEq, if_false,
          if_neg apart, StoreAnswer.ofWrite]

end LeaseElection.BucketStore
