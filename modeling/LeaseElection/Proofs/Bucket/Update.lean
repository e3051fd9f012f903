import LeaseElection.Proofs.Bucket.Direct
import LeaseElection.Proofs.Lock.History

namespace LeaseElection.BucketStore

variable {s : BucketStore} {b later : Bucket} {key : RecordKey} {bucketKey : String}
  {call : StoreCall Token} {record : LeaseRecord} {token : Token} {revision : Nat}

/-- The key has a readable record of this revision. -/
def Holds (b : Bucket) (bucketKey : String) (revision : Nat) : Prop :=
  BucketKeyValid bucketKey ∧ ∃ value record,
    b.entry? bucketKey = some ⟨revision, .put, value⟩ ∧ LeaseRecord.decode value = .ok record

theorem holds_of_get {current : Versioned Token} (got : (s.get key).1 = .ok current) :
    ∃ revision, current.token = .ofRevision revision ∧
      Holds (s.get key).2.line.bucket key.bucketKey revision := by
  have reads := s.read_reads key.bucketKey
  have found (valid : BucketKeyValid key.bucketKey) := s.read_bucket valid
  unfold get at got ⊢
  generalize s.read key.bucketKey = result at reads found got ⊢
  obtain ⟨outcome, next⟩ := result
  cases reads with
  | vacant gone => cases got
  | current record revision value valid present decoded =>
      cases got
      rw [← found valid] at present
      exact ⟨revision, rfl, valid, value, record, present, decoded⟩
  | failed error unknown => cases got

theorem holds_of_write
    (written : BucketKeyValid bucketKey ∧ b.entry? bucketKey = some ⟨revision, .put, record.encode⟩) :
    Holds b bucketKey revision :=
  ⟨written.1, record.encode, record, written.2, record.decodeGlyphs_encode⟩

theorem holds_of_create (created : (s.create key record).1 = .ok token) :
    ∃ revision, token = .ofRevision revision ∧
      Holds (s.create key record).2.line.bucket key.bucketKey revision := by
  rw [create_eq] at created ⊢
  obtain ⟨revision, ending, given, same⟩ := conclude_ok created
  have written := BucketLine.entry_of_create ending
  rw [same]
  dsimp only
  exact ⟨revision, given, holds_of_write written⟩

theorem holds_of_update {presented : Token}
    (updated : (s.update key record presented).1 = .ok token) :
    ∃ revision, token = .ofRevision revision ∧
      Holds (s.update key record presented).2.line.bucket key.bucketKey revision := by
  cases word : tokenRevision? presented with
  | none =>
      unfold update at updated
      rw [word] at updated
      cases updated
  | some expected =>
      rw [update_eq word] at updated ⊢
      obtain ⟨revision, ending, given, same⟩ := conclude_ok updated
      have written := BucketLine.entry_of_update ending
      rw [same]
      dsimp only
      exact ⟨revision, given, holds_of_write written⟩

theorem holds_of_given
    (given : Exchange.token? ⟨⟨key, call⟩, (s.call key call).1⟩ = some token) :
    ∃ revision, token = .ofRevision revision ∧
      Holds (s.call key call).2.line.bucket key.bucketKey revision := by
  cases call with
  | get =>
      rw [call_get] at given ⊢
      dsimp only at given ⊢
      obtain ⟨current, got, rfl⟩ := Exchange.token_of_read given
      exact holds_of_get got
  | create record =>
      rw [call_create] at given ⊢
      dsimp only at given ⊢
      exact holds_of_create (Exchange.token_of_write given)
  | update record presented =>
      rw [call_update] at given ⊢
      dsimp only at given ⊢
      exact holds_of_update (Exchange.token_of_write given)

/-- Some call about the key was answered with the token of this revision, and the bucket may have
changed since. -/
def Issued (b : Bucket) (key : RecordKey) (revision : UInt64) : Prop :=
  ∃ (s : BucketStore) (call : StoreCall Token) (changes : List BucketChange),
    s.line.bucket.Numbered ∧
      Exchange.token? ⟨⟨key, call⟩, (s.call key call).1⟩ = some (.ofRevision revision.toNat) ∧
        changes.foldl Bucket.change (s.call key call).2.line.bucket = b

/-- If the key's latest entry has this revision, then it is a readable record. -/
structure Backs (b : Bucket) (bucketKey : String) (revision : Nat) : Prop where
  valid : BucketKeyValid bucketKey
  positive : revision ≠ 0
  drawn : revision ≤ b.lastRevision
  genuine : ∀ e, b.entry? bucketKey = some e → e.revision = revision →
    e.IsLive ∧ ∃ record, LeaseRecord.decode e.value = .ok record

theorem Backs.changed (backs : Backs b bucketKey revision) (change : Bucket.Later b later) :
    Backs later bucketKey revision where
  valid := backs.valid
  positive := backs.positive
  drawn := Nat.le_trans backs.drawn change.counted
  genuine := by
    rintro e present rfl
    exact backs.genuine e (change.entry_of_drawn present backs.drawn) rfl

theorem Holds.backs (holds : Holds b bucketKey revision) (numbered : b.Numbered) :
    Backs b bucketKey revision := by
  obtain ⟨valid, value, record, present, decoded⟩ := holds
  obtain ⟨positive, drawn⟩ := numbered bucketKey _ present
  refine ⟨valid, positive, drawn, ?_⟩
  intro e found _
  rw [present] at found
  cases found
  exact ⟨rfl, record, decoded⟩

theorem Issued.backs {revision : UInt64} (issued : Issued b key revision) :
    Backs b key.bucketKey revision.toNat := by
  obtain ⟨s, call, changes, numbered, given, rfl⟩ := issued
  obtain ⟨drawn, same, holds⟩ := holds_of_given given
  have one := Token.ofRevision_injective same
  subst one
  exact (holds.backs ((s.call_later key call).numbered numbered)).changed
    (Bucket.later_changes _ changes)

theorem Backs.live (backs : Backs b bucketKey revision) (current : b.revision bucketKey = revision) :
    b.LiveAt bucketKey revision := by
  cases present : b.entry? bucketKey with
  | none =>
      rw [Bucket.revision_of_absent present] at current
      exact absurd current.symm backs.positive
  | some e =>
      rw [Bucket.revision_of_present present] at current
      obtain ⟨live, -⟩ := backs.genuine e present current
      obtain ⟨drawn, operation, value⟩ := e
      have live : operation = .put := live
      subst live current
      exact ⟨value, present⟩

/-- The write of an update that presents the token of this revision: what comes of it, and the line
after it. -/
def sent (s : BucketStore) (key : RecordKey) (record : LeaseRecord) (revision : UInt64) :
    Reply (Option Nat) × BucketLine :=
  s.line.write key.bucketKey record.encode revision.toNat

/-- What an update does that presents the token of this revision, and what its answer says. -/
structure Candid (s : BucketStore) (key : RecordKey) (record : LeaseRecord) (revision : UInt64) :
    Prop where
  /-- The write changes nothing but this key, and that only if it is live at this revision. -/
  writes : (s.sent key record revision).2.bucket = s.line.atWrite ∨
    (s.sent key record revision).2.bucket =
        s.line.atWrite.record key.bucketKey .put record.encode ∧
      s.line.atWrite.LiveAt key.bucketKey revision.toNat
  /-- A success is the end of it; after a failure there is one more read. -/
  requests : (s.update key record (.ofRevision revision.toNat)).2.line.bucket =
    match (s.update key record (.ofRevision revision.toNat)).1 with
    | .ok _ => (s.sent key record revision).2.bucket
    | .error _ => (s.sent key record revision).2.atRead
  success : ∀ given, (s.update key record (.ofRevision revision.toNat)).1 = .ok given ↔
    ∃ drawn, (s.sent key record revision).1 = .answer (some drawn) ∧ given = .ofRevision drawn
  applied : ∀ drawn, (s.sent key record revision).1 = .answer (some drawn) →
    s.line.atWrite.LiveAt key.bucketKey revision.toNat ∧
      (s.sent key record revision).2.bucket =
          s.line.atWrite.record key.bucketKey .put record.encode ∧
        Bucket.entry? (s.sent key record revision).2.bucket key.bucketKey =
          some ⟨drawn, .put, record.encode⟩
  /-- The revision is gone for good, and so is any write over it. -/
  superseded : ∀ error, (s.update key record (.ofRevision revision.toNat)).1 = .error error →
    error.IsConflict ∨ error.IsNotFound →
      ¬ (s.update key record (.ofRevision revision.toNat)).2.line.bucket.LiveAt key.bucketKey
          revision.toNat ∧
        ∀ (future : BucketStore) (changes : List BucketChange) (another : LeaseRecord),
          changes.foldl Bucket.change (s.update key record (.ofRevision revision.toNat)).2.line.bucket =
              future.line.bucket →
            (future.sent key another revision).2.bucket = future.line.atWrite
  /-- The write was not applied, and its own failure is told. -/
  untouched : ∀ error e,
    s.report "update" key.bucketKey
        (s.line.update key.bucketKey record.encode revision.toNat).1 = .error error →
      ((s.sent key record revision).2.read key.bucketKey).1 = .answer (some e) →
        e.revision = revision.toNat →
          (s.update key record (.ofRevision revision.toNat)).1 = .error error ∧ error.IsOutage ∧
            e.IsLive ∧ s.line.bucket.entry? key.bucketKey = some e ∧
              Bucket.entry?
                (s.update key record (.ofRevision revision.toNat)).2.line.bucket key.bucketKey = some e

theorem Backs.atWrite (backs : Backs s.line.bucket bucketKey revision) :
    Backs s.line.atWrite bucketKey revision :=
  backs.changed (BucketLine.later_precede s.line.bucket (s.line.writes.headD .none))

section Presenting

variable {revision : UInt64}

theorem Backs.written (backs : Backs s.line.bucket key.bucketKey revision.toNat)
    (record : LeaseRecord) :
    (s.sent key record revision).2.bucket = s.line.atWrite ∨
      (s.sent key record revision).2.bucket =
          s.line.atWrite.record key.bucketKey .put record.encode ∧
        s.line.atWrite.LiveAt key.bucketKey revision.toNat := by
  have writes := s.line.write_writes key.bucketKey record.encode revision.toNat
  unfold sent
  generalize (s.line.write key.bucketKey record.encode revision.toNat).2.bucket = next at writes ⊢
  generalize (s.line.write key.bucketKey record.encode revision.toNat).1 = reply at writes
  cases writes with
  | acknowledged current => exact .inr ⟨rfl, backs.atWrite.live current⟩
  | unnoticed current => exact .inr ⟨rfl, backs.atWrite.live current⟩
  | rejected superseded => exact .inl rfl
  | undone reply unanswered => exact .inl rfl

/-- Over a revision that the key has no longer, nothing is ever written, whatever happens first. -/
theorem Backs.barred (backs : Backs b key.bucketKey revision.toNat)
    (superseded : b.revision key.bucketKey ≠ revision.toNat) (changes : List BucketChange)
    (future : changes.foldl Bucket.change b = s.line.bucket) (record : LeaseRecord) :
    (s.sent key record revision).2.bucket = s.line.atWrite := by
  have first : Bucket.Later b s.line.bucket := future ▸ Bucket.later_changes b changes
  have change : Bucket.Later b s.line.atWrite := first.trans (BucketLine.later_precede _ _)
  rcases (backs.changed first).written record with same | ⟨-, live⟩
  · exact same
  · exact absurd live.current (change.revision_ne backs.positive backs.drawn superseded)

theorem Backs.acknowledged (backs : Backs s.line.bucket key.bucketKey revision.toNat) {drawn : Nat}
    (answered : (s.sent key record revision).1 = .answer (some drawn)) :
    s.line.atWrite.LiveAt key.bucketKey revision.toNat ∧
      (s.sent key record revision).2.bucket =
          s.line.atWrite.record key.bucketKey .put record.encode ∧
        Bucket.entry? (s.sent key record revision).2.bucket key.bucketKey =
          some ⟨drawn, .put, record.encode⟩ := by
  have writes := s.line.write_writes key.bucketKey record.encode revision.toNat
  unfold sent at answered ⊢
  rw [answered] at writes
  generalize (s.line.write key.bucketKey record.encode revision.toNat).2.bucket = next at writes ⊢
  cases writes with
  | acknowledged current =>
      refine ⟨backs.atWrite.live current, rfl, ?_⟩
      rw [Bucket.entry_record, if_pos rfl]
  | undone reply unanswered => exact absurd rfl (unanswered _)

/-- The store once its write has come to an end. -/
def wrote (s : BucketStore) (key : RecordKey) (record : LeaseRecord) (revision : UInt64) :
    BucketStore := { s with line := (s.sent key record revision).2 }

theorem update_presented (valid : BucketKeyValid key.bucketKey) :
    s.update key record (.ofRevision revision.toNat) =
      (s.wrote key record revision).conclude "update" key.bucketKey
        (s.line.update key.bucketKey record.encode revision.toNat).1
        (updateBlame key (.ofRevision revision.toNat) revision.toNat) := by
  rw [update_eq (tokenRevision?_ofRevision revision.toNat_lt), BucketLine.update_line valid]
  rfl

theorem Backs.candid_of_success (backs : Backs s.line.bucket key.bucketKey revision.toNat) {drawn : Nat}
    (done : (s.line.update key.bucketKey record.encode revision.toNat).1 = some (.ok drawn)) :
    Candid s key record revision := by
  have answered : (s.sent key record revision).1 = .answer (some drawn) :=
    (BucketLine.update_ok_iff.mp done).2
  have update : s.update key record (.ofRevision revision.toNat) =
      (.ok (.ofRevision drawn), s.wrote key record revision) := by
    rw [update_presented backs.valid, done]
    rfl
  refine ⟨backs.written record, ?_, ?_, fun _ => backs.acknowledged, ?_, ?_⟩
  · rw [update]
    rfl
  · intro given
    simp [update, answered, eq_comm]
  · intro error failed
    rw [update] at failed
    cases failed
  · intro error e reported
    rw [done] at reported
    cases reported

/-- If the read after a failed write puts the blame on the key, then the key has the revision no
longer. -/
theorem Backs.superseded {expected : Nat} (backs : Backs b key.bucketKey expected)
    {outcome : Except StoreError (Option (LeaseRecord × Nat))} (reads : Reads b key.bucketKey outcome)
    {reason error : StoreError} (outage : reason.IsOutage)
    (told : (outcome.bind fun current => .error (updateBlame key token expected
      (current.map Prod.snd) reason) : Except StoreError Token) = .error error)
    (blaming : error.IsConflict ∨ error.IsNotFound) : b.revision key.bucketKey ≠ expected := by
  cases reads with
  | vacant gone => exact fun current => gone expected (backs.live current)
  | current record revision value valid present decoded =>
      rw [Bucket.revision_of_present present]
      rintro rfl
      have own : reason = error := by
        simpa [Except.bind, updateBlame] using told
      subst own
      exact outage.not_blaming blaming
  | failed unread unknown =>
      cases told
      rcases unknown with outage | ⟨reason, rfl⟩
      · exact absurd blaming outage.not_blaming
      · simp [StoreError.IsConflict, StoreError.IsNotFound] at blaming

theorem Backs.candid_of_failure (backs : Backs s.line.bucket key.bucketKey revision.toNat)
    (record : LeaseRecord)
    (failed : ∀ drawn, (s.line.update key.bucketKey record.encode revision.toNat).1 ≠
      some (.ok drawn)) : Candid s key record revision := by
  obtain ⟨reason, outage, reported, update⟩ := conclude_failed (s.wrote key record revision)
    "update" key.bucketKey (updateBlame key (.ofRevision revision.toNat) revision.toNat) failed
  rw [← update_presented backs.valid] at update
  have bucket : (s.update key record (.ofRevision revision.toNat)).2.line.bucket =
      (s.sent key record revision).2.atRead := by
    rw [update]
    exact (s.wrote key record revision).read_bucket backs.valid
  have change : Bucket.Later s.line.bucket (s.sent key record revision).2.atRead :=
    (s.line.write_later _ _ _).trans (BucketLine.later_precede _ _)
  have reads : Reads (s.sent key record revision).2.atRead key.bucketKey _ :=
    (s.wrote key record revision).read_reads key.bucketKey
  refine ⟨backs.written record, ?_, ?_, fun _ => backs.acknowledged, ?_, ?_⟩
  · rw [bucket, update]
    cases outcome : ((s.wrote key record revision).read key.bucketKey).1 <;> rfl
  · intro given
    constructor
    · intro succeeds
      rw [update] at succeeds
      cases outcome : ((s.wrote key record revision).read key.bucketKey).1 <;>
        rw [outcome] at succeeds <;> cases succeeds
    · rintro ⟨drawn, answered, -⟩
      exact absurd (BucketLine.update_ok_iff.mpr ⟨backs.valid, answered⟩) (failed drawn)
  · intro error told blaming
    rw [update] at told
    have read := backs.changed change
    have gone := read.superseded reads outage told blaming
    rw [bucket]
    exact ⟨fun live => gone live.current,
      fun future changes another same => read.barred gone changes same another⟩
  · intro error e own answered current
    have present := BucketLine.entry_of_read answered
    have before := change.entry_of_drawn present (current ▸ backs.drawn)
    obtain ⟨live, held, decoded⟩ := backs.genuine e before current
    have read := read_of_answer (s := s.wrote key record revision) backs.valid answered live decoded
    have same : reason = error := Except.error.inj (reported.symm.trans own)
    subst same
    refine ⟨?_, outage, live, before, ?_⟩
    · rw [update, read]
      simp [Except.bind, updateBlame, current]
    · rw [bucket]
      exact present

theorem Backs.candid (backs : Backs s.line.bucket key.bucketKey revision.toNat)
    (record : LeaseRecord) : Candid s key record revision := by
  by_cases done : ∃ drawn,
      (s.line.update key.bucketKey record.encode revision.toNat).1 = some (.ok drawn)
  · obtain ⟨drawn, done⟩ := done
    exact backs.candid_of_success done
  · exact backs.candid_of_failure record (not_exists.mp done)

end Presenting

/-- Whatever befalls its requests and whatever others do meanwhile, an update acts and answers as its
token allows; a token that is no 64-bit word is refused without a request. -/
theorem update_kept :
    (∀ (s : BucketStore) (key : RecordKey) (record : LeaseRecord) (revision : UInt64),
      Issued s.line.bucket key revision → Candid s key record revision) ∧
    (∀ (s : BucketStore) (key : RecordKey) (record : LeaseRecord) (token : Token),
      ¬ IsWord token → s.update key record token = (.error (.conflict key token.text), s)) := by
  constructor
  · intro s key record revision issued
    exact issued.backs.candid record
  · intro s key record token foreign
    cases word : tokenRevision? token with
    | none => rw [update, word]
    | some expected => exact absurd (isWord_of_tokenRevision? word) foreign

/-- An update whose acknowledgement is lost. -/
theorem update_kept_unacknowledged : ∃ b : Bucket, Issued b ⟨"ns", "lock"⟩ 1 ∧
    Candid ⟨⟨b, [], [⟨[], .lost⟩]⟩, .ofSeconds 1⟩ ⟨"ns", "lock"⟩ default 1 := by
  have valid : BucketKeyValid (RecordKey.bucketKey ⟨"ns", "lock"⟩) := by decide
  have created : (direct .empty (.ofSeconds 1)).create ⟨"ns", "lock"⟩ default = _ :=
    create_of_absent valid rfl default
  have issued : Issued (Bucket.record .empty (RecordKey.bucketKey ⟨"ns", "lock"⟩) .put
      (default : LeaseRecord).encode) ⟨"ns", "lock"⟩ 1 := by
    refine ⟨direct .empty (.ofSeconds 1), .create default, [], Bucket.empty_numbered, ?_, ?_⟩
    · rw [call_create, created]
      rfl
    · rw [call_create, created]
      rfl
  exact ⟨_, issued, update_kept.1 _ _ _ _ issued⟩

end LeaseElection.BucketStore
