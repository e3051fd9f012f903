import LeaseElection.Bucket.Store
import LeaseElection.Proofs.Bucket.Line

namespace LeaseElection

/-- Errors that tell nothing about the record. -/
def StoreError.IsOutage (error : StoreError) : Prop :=
  (∃ reason, error = .timeout reason) ∨ ∃ reason, error = .unavailable reason

theorem StoreError.IsOutage.not_blaming {error : StoreError} (outage : error.IsOutage) :
    ¬ (error.IsConflict ∨ error.IsNotFound) := by
  rcases outage with ⟨reason, rfl⟩ | ⟨reason, rfl⟩ <;> simp [IsConflict, IsNotFound]

theorem LeaseRecord.decode_error {text : String} {error : StoreError}
    (failed : decode text = .error error) : ∃ reason, error = .codec reason := by
  unfold decode decodeGlyphs at failed
  cases read : Json.Reader.decode reader (Text.glyphs text) with
  | error fault =>
      rw [read] at failed
      cases failed
      exact ⟨_, rfl⟩
  | ok record =>
      rw [read] at failed
      cases failed

namespace BucketStore

variable {s : BucketStore} {key : RecordKey} {bucketKey : String}

theorem report_failed {α : Type} (s : BucketStore) (what bucketKey : String) {ending : Ending α}
    (failed : ∀ a, ending ≠ some (.ok a)) :
    ∃ error, error.IsOutage ∧ s.report what bucketKey ending = .error error := by
  cases ending with
  | none => exact ⟨_, .inl ⟨_, rfl⟩, rfl⟩
  | some result =>
      cases result with
      | ok a => exact absurd rfl (failed a)
      | error e => exact ⟨_, .inr ⟨_, rfl⟩, rfl⟩

/-- What reading a key of this bucket may yield. -/
inductive Reads (found : Bucket) (bucketKey : String) :
    Except StoreError (Option (LeaseRecord × Nat)) → Prop
  | vacant (gone : ∀ revision, ¬ found.LiveAt bucketKey revision) :
      Reads found bucketKey (.ok none)
  | current (record : LeaseRecord) (revision : Nat) (value : String)
      (valid : BucketKeyValid bucketKey)
      (present : found.entry? bucketKey = some ⟨revision, .put, value⟩)
      (decoded : LeaseRecord.decode value = .ok record) :
      Reads found bucketKey (.ok (some (record, revision)))
  | failed (error : StoreError) (unknown : error.IsOutage ∨ ∃ reason, error = .codec reason) :
      Reads found bucketKey (.error error)

theorem read_reads (s : BucketStore) (bucketKey : String) :
    Reads s.line.atRead bucketKey (s.read bucketKey).1 := by
  by_cases got : ∃ entry, (s.line.get bucketKey).1 = some (.ok entry)
  · obtain ⟨entry, got⟩ := got
    obtain ⟨valid, answer⟩ := BucketLine.get_ok_iff.mp got
    have answered := BucketLine.entry_of_read answer
    simp only [read, got, report]
    cases entry with
    | none =>
        refine .vacant ?_
        rintro revision ⟨value, present⟩
        rw [answered] at present
        cases present
    | some entry =>
        obtain ⟨revision, operation, value⟩ := entry
        dsimp only
        split
        next live =>
          have live : operation = .put := live
          subst live
          cases decoded : LeaseRecord.decode value with
          | error error => exact .failed error (.inr (LeaseRecord.decode_error decoded))
          | ok record => exact .current record revision value valid answered decoded
        next gone =>
          refine .vacant ?_
          rintro revision ⟨value, present⟩
          rw [answered] at present
          cases present
          exact gone rfl
  · obtain ⟨error, outage, reported⟩ :=
      s.report_failed "read" bucketKey (not_exists.mp got)
    simp only [read, reported]
    exact .failed error (.inl outage)

theorem read_store (s : BucketStore) (bucketKey : String) :
    (s.read bucketKey).2 = ⟨(s.line.get bucketKey).2, s.timeLimit⟩ := by
  unfold read
  rfl

theorem read_bucket (s : BucketStore) (valid : BucketKeyValid bucketKey) :
    (s.read bucketKey).2.line.bucket = s.line.atRead := by
  rw [read_store, BucketLine.get_line valid, BucketLine.read_bucket]

theorem read_of_answer {e : BucketEntry} {record : LeaseRecord} (valid : BucketKeyValid bucketKey)
    (answered : (s.line.read bucketKey).1 = .answer (some e)) (live : e.IsLive)
    (decoded : LeaseRecord.decode e.value = .ok record) :
    (s.read bucketKey).1 = .ok (some (record, e.revision)) := by
  have got := BucketLine.get_ok_iff.mpr ⟨valid, answered⟩
  simp only [read, got, report, if_pos live, decoded]
  rfl

theorem read_later (s : BucketStore) (bucketKey : String) :
    Bucket.Later s.line.bucket (s.read bucketKey).2.line.bucket := by
  rw [read_store]
  exact s.line.get_later bucketKey

theorem get_later (s : BucketStore) (key : RecordKey) :
    Bucket.Later s.line.bucket (s.get key).2.line.bucket := by
  have later := s.read_later key.bucketKey
  unfold get
  split <;> simp_all

/-- What a write comes to that ended like this: the token of its revision, or else, after one more
read, the error that the revision read tells to blame. -/
def conclude (s : BucketStore) (what bucketKey : String) (ending : Ending Nat)
    (blame : Option Nat → StoreError → StoreError) : Except StoreError Token × BucketStore :=
  match s.report what bucketKey ending with
  | .ok revision => (.ok (.ofRevision revision), s)
  | .error e => ((s.read bucketKey).1.bind fun current => .error (blame (current.map Prod.snd) e),
      (s.read bucketKey).2)

/-- The error of a creation that failed. -/
def createBlame (key : RecordKey) : Option Nat → StoreError → StoreError
  | some _, _ => .alreadyExists key
  | none, e => e

/-- The error of an update that failed. -/
def updateBlame (key : RecordKey) (token : Token) (expected : Nat) :
    Option Nat → StoreError → StoreError
  | some revision, e => if revision = expected then e else .conflict key token.text
  | none, _ => .notFound key

theorem create_eq (s : BucketStore) (key : RecordKey) (record : LeaseRecord) :
    s.create key record = conclude { s with line := (s.line.create key.bucketKey record.encode).2 }
      "create" key.bucketKey (s.line.create key.bucketKey record.encode).1 (createBlame key) := by
  dsimp only [create, conclude]
  generalize report _ "create" key.bucketKey (s.line.create key.bucketKey record.encode).1 = reported
  generalize read _ key.bucketKey = result
  obtain ⟨outcome, next⟩ := result
  cases reported with
  | ok revision => rfl
  | error e =>
      cases outcome with
      | ok current => cases current <;> rfl
      | error e => rfl

theorem update_eq {token : Token} {expected : Nat} (word : tokenRevision? token = some expected)
    (s : BucketStore) (key : RecordKey) (record : LeaseRecord) : s.update key record token =
      conclude { s with line := (s.line.update key.bucketKey record.encode expected).2 }
        "update" key.bucketKey (s.line.update key.bucketKey record.encode expected).1
        (updateBlame key token expected) := by
  dsimp only [update, conclude]
  rw [word]
  dsimp only
  generalize report _ "update" key.bucketKey
    (s.line.update key.bucketKey record.encode expected).1 = reported
  generalize read _ key.bucketKey = result
  obtain ⟨outcome, next⟩ := result
  cases reported with
  | ok revision => rfl
  | error e =>
      cases outcome with
      | ok current => cases current <;> rfl
      | error e => rfl

variable {what : String} {ending : Ending Nat} {blame : Option Nat → StoreError → StoreError}

theorem conclude_later (s : BucketStore) (what bucketKey : String) (ending : Ending Nat)
    (blame : Option Nat → StoreError → StoreError) :
    Bucket.Later s.line.bucket (s.conclude what bucketKey ending blame).2.line.bucket := by
  unfold conclude
  split
  · exact .refl s.line.bucket
  · exact s.read_later bucketKey

theorem conclude_failed (s : BucketStore) (what bucketKey : String)
    (blame : Option Nat → StoreError → StoreError) (failed : ∀ revision, ending ≠ some (.ok revision)) :
    ∃ error, error.IsOutage ∧ s.report what bucketKey ending = .error error ∧
      s.conclude what bucketKey ending blame =
        ((s.read bucketKey).1.bind fun current => .error (blame (current.map Prod.snd) error),
          (s.read bucketKey).2) := by
  obtain ⟨error, outage, reported⟩ := s.report_failed what bucketKey failed
  refine ⟨error, outage, reported, ?_⟩
  unfold conclude
  rw [reported]

theorem conclude_ok {token : Token} (concluded : (s.conclude what bucketKey ending blame).1 = .ok token) :
    ∃ revision, ending = some (.ok revision) ∧ token = .ofRevision revision ∧
      (s.conclude what bucketKey ending blame).2 = s := by
  by_cases done : ∃ revision, ending = some (.ok revision)
  · obtain ⟨revision, rfl⟩ := done
    cases concluded
    exact ⟨revision, rfl, rfl, rfl⟩
  · obtain ⟨error, -, -, same⟩ := conclude_failed s what bucketKey blame (not_exists.mp done)
    rw [same] at concluded
    cases outcome : (s.read bucketKey).1 <;> rw [outcome] at concluded <;> cases concluded

theorem create_later (s : BucketStore) (key : RecordKey) (record : LeaseRecord) :
    Bucket.Later s.line.bucket (s.create key record).2.line.bucket := by
  rw [create_eq]
  refine .trans ?_ (conclude_later _ _ _ _ _)
  dsimp only
  exact s.line.create_later key.bucketKey record.encode

theorem update_later (s : BucketStore) (key : RecordKey) (record : LeaseRecord) (token : Token) :
    Bucket.Later s.line.bucket (s.update key record token).2.line.bucket := by
  cases word : tokenRevision? token with
  | none =>
      unfold update
      rw [word]
      exact .refl s.line.bucket
  | some expected =>
      rw [update_eq word]
      refine .trans ?_ (conclude_later _ _ _ _ _)
      dsimp only
      exact s.line.update_later key.bucketKey record.encode expected

theorem call_get (s : BucketStore) (key : RecordKey) :
    s.call key .get = (.ofRead (s.get key).1, (s.get key).2) := by
  rw [BucketStore.call]

theorem call_create (s : BucketStore) (key : RecordKey) (record : LeaseRecord) :
    s.call key (.create record) = (.ofWrite (s.create key record).1, (s.create key record).2) := by
  rw [BucketStore.call]

theorem call_update (s : BucketStore) (key : RecordKey) (record : LeaseRecord) (token : Token) :
    s.call key (.update record token) =
      (.ofWrite (s.update key record token).1, (s.update key record token).2) := by
  rw [BucketStore.call]

theorem call_later (s : BucketStore) (key : RecordKey) (call : StoreCall Token) :
    Bucket.Later s.line.bucket (s.call key call).2.line.bucket := by
  cases call with
  | get => simpa only [call_get] using s.get_later key
  | create record => simpa only [call_create] using s.create_later key record
  | update record token => simpa only [call_update] using s.update_later key record token

end BucketStore

end LeaseElection
