import LeaseElection.Bucket.Client
import LeaseElection.Proofs.Bucket.Contents

namespace LeaseElection.BucketLine

variable {l : BucketLine} {key value : String} {expected : Nat}

/-- The bucket that the next write finds. -/
def atWrite (l : BucketLine) : Bucket := precede l.bucket (l.writes.headD .none)

/-- The bucket that the next read finds. -/
def atRead (l : BucketLine) : Bucket := precede l.bucket (l.reads.headD .none)

theorem later_precede (b : Bucket) (fault : RequestFault) : Bucket.Later b (precede b fault) :=
  Bucket.later_changes b fault.before

inductive Writes (found : Bucket) (key value : String) (expected : Nat) :
    Reply (Option Nat) → Bucket → Prop
  | acknowledged (current : found.revision key = expected) :
      Writes found key value expected (.answer (some (found.lastRevision + 1)))
        (found.record key .put value)
  | unnoticed (current : found.revision key = expected) :
      Writes found key value expected .silence (found.record key .put value)
  | rejected (superseded : found.revision key ≠ expected) :
      Writes found key value expected (.answer none) found
  | undone (reply : Reply (Option Nat)) (unanswered : ∀ outcome, reply ≠ .answer outcome) :
      Writes found key value expected reply found

theorem write_writes (l : BucketLine) (key value : String) (expected : Nat) :
    Writes l.atWrite key value expected (l.write key value expected).1
      (l.write key value expected).2.bucket := by
  dsimp only [write, atWrite]
  generalize l.writes.headD .none = fault
  generalize precede l.bucket fault = found
  obtain ⟨before, fate⟩ := fault
  by_cases current : found.revision key = expected
  · have written : found.write? key value expected = some (found.record key .put value) := if_pos current
    cases fate with
    | answered =>
        rw [written]
        exact .acknowledged current
    | lost =>
        rw [written]
        exact .unnoticed current
    | silent | refused refusal | unattended => exact .undone _ nofun
  · have rejected : found.write? key value expected = none := if_neg current
    cases fate with
    | answered =>
        rw [rejected]
        exact .rejected current
    | lost =>
        rw [rejected]
        exact .undone _ nofun
    | silent | refused refusal | unattended => exact .undone _ nofun

theorem Writes.later {found next : Bucket} {reply : Reply (Option Nat)}
    (writes : Writes found key value expected reply next) : Bucket.Later found next := by
  cases writes with
  | acknowledged current => exact Bucket.later_record found key .put value
  | unnoticed current => exact Bucket.later_record found key .put value
  | rejected superseded => exact .refl found
  | undone reply unanswered => exact .refl found

theorem write_later (l : BucketLine) (key value : String) (expected : Nat) :
    Bucket.Later l.bucket (l.write key value expected).2.bucket :=
  (later_precede _ _).trans (l.write_writes key value expected).later

theorem read_bucket (l : BucketLine) (key : String) : (l.read key).2.bucket = l.atRead := by
  dsimp only [read, atRead]
  cases (l.reads.headD .none).fate <;> rfl

theorem entry_of_read {entry : Option BucketEntry} (answered : (l.read key).1 = .answer entry) :
    l.atRead.entry? key = entry := by
  dsimp only [read] at answered
  cases fate : (l.reads.headD .none).fate <;> rw [fate] at answered <;> cases answered
  rfl

theorem read_later (l : BucketLine) (key : String) :
    Bucket.Later l.bucket (l.read key).2.bucket := by
  rw [read_bucket]
  exact later_precede _ _

theorem get_of_valid (valid : BucketKeyValid key) : l.get key =
    match l.read key with
    | (.answer entry, l) => (some (.ok entry), l)
    | (.refused r, l) => (some (.error (.readRefused r)), l)
    | (.unattended, l) => (some (.error .readUnattended), l)
    | (.silence, l) => (none, l) := if_neg (not_not_intro valid)

theorem update_of_valid (valid : BucketKeyValid key) : l.update key value expected =
    match l.write key value expected with
    | (.answer (some revision), l) => (some (.ok revision), l)
    | (.answer none, l) => (some (.error .wrongRevision), l)
    | (.refused r, l) => (some (.error (.writeRefused r)), l)
    | (.unattended, l) => (some (.error .writeUnattended), l)
    | (.silence, l) => (none, l) := if_neg (not_not_intro valid)

theorem get_line (valid : BucketKeyValid key) : (l.get key).2 = (l.read key).2 := by
  rw [get_of_valid valid]
  split <;> simp only [*]

theorem update_line (valid : BucketKeyValid key) :
    (l.update key value expected).2 = (l.write key value expected).2 := by
  rw [update_of_valid valid]
  split <;> simp only [*]

theorem get_ok_iff {entry : Option BucketEntry} : (l.get key).1 = some (.ok entry) ↔
    BucketKeyValid key ∧ (l.read key).1 = .answer entry := by
  by_cases valid : BucketKeyValid key
  · rw [get_of_valid valid]
    generalize l.read key = result
    obtain ⟨reply, next⟩ := result
    cases reply <;> simp [valid]
  · rw [get, if_pos valid]
    simp [valid]

theorem update_ok_iff {revision : Nat} :
    (l.update key value expected).1 = some (.ok revision) ↔
      BucketKeyValid key ∧ (l.write key value expected).1 = .answer (some revision) := by
  by_cases valid : BucketKeyValid key
  · rw [update_of_valid valid]
    generalize l.write key value expected = result
    obtain ⟨reply, next⟩ := result
    cases reply with
    | answer outcome => cases outcome <;> simp [valid]
    | refused refusal | unattended | silence => simp [valid]
  · rw [update, if_pos valid]
    simp [valid]

theorem get_later (l : BucketLine) (key : String) :
    Bucket.Later l.bucket (l.get key).2.bucket := by
  by_cases valid : BucketKeyValid key
  · rw [get_line valid]
    exact l.read_later key
  · rw [get, if_pos valid]
    exact .refl l.bucket

theorem update_later (l : BucketLine) (key value : String) (expected : Nat) :
    Bucket.Later l.bucket (l.update key value expected).2.bucket := by
  by_cases valid : BucketKeyValid key
  · rw [update_line valid]
    exact l.write_later key value expected
  · rw [update, if_pos valid]
    exact .refl l.bucket

/-- After a write that was acknowledged the key has its value, under the revision that was told. -/
theorem entry_of_update {revision : Nat}
    (updated : (l.update key value expected).1 = some (.ok revision)) :
    BucketKeyValid key ∧
      Bucket.entry? (l.update key value expected).2.bucket key = some ⟨revision, .put, value⟩ := by
  obtain ⟨valid, acknowledged⟩ := update_ok_iff.mp updated
  refine ⟨valid, ?_⟩
  have writes := l.write_writes key value expected
  rw [update_line valid]
  rw [acknowledged] at writes
  generalize (l.write key value expected).2.bucket = next at writes
  cases writes with
  | acknowledged current => rw [Bucket.entry_record, if_pos rfl]
  | undone reply unanswered => exact absurd rfl (unanswered _)

/-- How a creation comes to its end: with its first write, with one over a deletion, or without an
acknowledged write. -/
inductive Creates (l : BucketLine) (key value : String) : Ending Nat × BucketLine → Prop
  | first : Creates l key value (l.update key value 0)
  | replacing (between : BucketLine) (later : Bucket.Later l.bucket between.bucket) (revision : Nat) :
      Creates l key value
        ((between.update key value revision).1.map fun result => result.mapError BucketError.ofCreation,
          (between.update key value revision).2)
  | without (ending : Ending Nat) (failed : ∀ revision, ending ≠ some (.ok revision))
      (between : BucketLine) (later : Bucket.Later l.bucket between.bucket) :
      Creates l key value (ending, between)

theorem create_creates (l : BucketLine) (key value : String) :
    Creates l key value (l.create key value) := by
  unfold create
  split
  next first between updated =>
    have one := l.update_later key value 0
    rw [updated] at one
    have two := one.trans (between.get_later key)
    split
    next entry next got =>
      rw [got] at two
      split
      · exact .without _ (fun _ same => by cases same) next two
      · exact .replacing next two entry.revision
    next next got =>
      rw [got] at two
      exact .without _ (fun _ same => by cases same) next two
    next e next got =>
      rw [got] at two
      exact .without _ (fun _ same => by cases same) next two
    next next got =>
      rw [got] at two
      exact .without _ (fun _ same => by cases same) next two
  next => exact .first

theorem create_later (l : BucketLine) (key value : String) :
    Bucket.Later l.bucket (l.create key value).2.bucket := by
  have creates := l.create_creates key value
  generalize l.create key value = result at creates
  cases creates with
  | first => exact l.update_later key value 0
  | replacing between later revision => exact later.trans (between.update_later key value revision)
  | without ending failed between later => exact later

theorem entry_of_create {revision : Nat}
    (created : (l.create key value).1 = some (.ok revision)) :
    BucketKeyValid key ∧
      Bucket.entry? (l.create key value).2.bucket key = some ⟨revision, .put, value⟩ := by
  have creates := l.create_creates key value
  generalize l.create key value = result at creates created
  cases creates with
  | first => exact entry_of_update created
  | replacing between later expected =>
      have updated : (between.update key value expected).1 = some (.ok revision) := by
        cases updated : (between.update key value expected).1 with
        | none =>
            rw [updated] at created
            cases created
        | some result =>
            cases result with
            | error e =>
                rw [updated] at created
                cases created
            | ok drawn =>
                rw [updated] at created
                exact created
      exact entry_of_update updated
  | without ending failed between later => exact absurd created (failed revision)

section Clear

variable {b : Bucket}

theorem get_clear (valid : BucketKeyValid key) :
    (clear b).get key = (some (.ok (b.entry? key)), clear b) := by
  rw [get_of_valid valid]
  rfl

theorem update_clear (valid : BucketKeyValid key) : (clear b).update key value expected =
    if b.revision key = expected then
      (some (.ok (b.lastRevision + 1)), clear (b.record key .put value))
    else (some (.error .wrongRevision), clear b) := by
  have written : (clear b).write key value expected =
      (.answer ((b.write? key value expected).map Bucket.lastRevision),
        clear ((b.write? key value expected).getD b)) := rfl
  rw [update_of_valid valid, written, Bucket.write?]
  by_cases current : b.revision key = expected
  · rw [if_pos current, if_pos current]
    rfl
  · rw [if_neg current, if_neg current]
    rfl

theorem create_clear_of_absent (valid : BucketKeyValid key) (absent : b.entry? key = none) :
    (clear b).create key value =
      (some (.ok (b.lastRevision + 1)), clear (b.record key .put value)) := by
  rw [create, update_clear valid, if_pos (Bucket.revision_of_absent absent)]

theorem create_clear_of_live (valid : BucketKeyValid key) {e : BucketEntry}
    (present : b.entry? key = some e) (live : e.IsLive) (numbered : e.revision ≠ 0) :
    (clear b).create key value = (some (.error .exists), clear b) := by
  have written : b.revision key ≠ 0 := by
    rw [Bucket.revision_of_present present]
    exact numbered
  rw [create, update_clear valid, if_neg written]
  simp only [get_clear valid, present, if_pos live]

end Clear

end LeaseElection.BucketLine
