import LeaseElection.Proofs.Bucket.Direct

namespace LeaseElection

theorem StoreError.IsOutage.not_codec {error : StoreError} {reason : String}
    (outage : error.IsOutage) : error ≠ .codec reason := by
  rcases outage with ⟨_, rfl⟩ | ⟨_, rfl⟩ <;> nofun

namespace Bucket

variable {b later : Bucket} {key : String}

/-- Nothing was ever drawn as revision zero. -/
theorem Numbered.not_liveAt_zero (numbered : b.Numbered) : ¬ b.LiveAt key 0 := by
  rintro ⟨value, present⟩
  exact absurd rfl (numbered key _ present).1

/-- The revision of a deletion is never that of a live entry, whatever happens after it. -/
theorem Later.not_liveAt_of_gone (change : Later b later) (numbered : b.Numbered) {e : BucketEntry}
    (present : b.entry? key = some e) (gone : ¬ e.IsLive) : ¬ later.LiveAt key e.revision := by
  rintro ⟨value, found⟩
  have drawn := (numbered key e present).2
  have before := change.entry_of_drawn found drawn
  have same := Option.some.inj (present.symm.trans before)
  exact gone (congrArg BucketEntry.operation same)

end Bucket

namespace BucketLine

variable {l middle after : BucketLine} {key value : String} {expected revision : Nat}
  {entry : Option BucketEntry} {e : BucketEntry} {error : BucketError}

/-- A request about a key: the bucket that it found, what the client heard of it, and, of a write,
the revision it expected and the bucket that it left. -/
inductive Request where
  | read (found : Bucket) (reply : Reply (Option BucketEntry))
  | write (found : Bucket) (expected : Nat) (reply : Reply (Option Nat)) (left : Bucket)

def reading (l : BucketLine) (key : String) : Request := .read l.atRead (l.read key).1

def writing (l : BucketLine) (key value : String) (expected : Nat) : Request :=
  .write l.atWrite expected (l.write key value expected).1 (l.write key value expected).2.bucket

/-- These requests, one after the other, take the line from one state to the other. -/
inductive Sends (key value : String) : BucketLine → List Request → BucketLine → Prop
  | none {l : BucketLine} : Sends key value l [] l
  | read {l after : BucketLine} {requests : List Request}
      (later : Sends key value (l.read key).2 requests after) :
      Sends key value l (l.reading key :: requests) after
  | write {l after : BucketLine} {requests : List Request} (expected : Nat)
      (later : Sends key value (l.write key value expected).2 requests after) :
      Sends key value l (l.writing key value expected :: requests) after

theorem Sends.readBack {requests : List Request} (sends : Sends key value l requests after) :
    Sends key value l (requests ++ [after.reading key]) (after.read key).2 := by
  induction sends with
  | none => exact .read .none
  | read later ih => exact .read ih
  | write expected later ih => exact .write expected ih

/-- The client has heard that the write was applied, with this revision. -/
def Request.Acknowledged (revision : Nat) : Request → Prop
  | .read _ _ => False
  | .write _ _ reply _ => reply = .answer (some revision)

/-- The request changes nothing, or else puts the value under the key while that has none. If the
client hears of it, the value is there under the revision that it hears. -/
def Request.Careful (key value : String) : Request → Prop
  | .read _ _ => True
  | .write found _ reply left =>
      (left = found ∨
        left = found.record key .put value ∧ ∀ revision, ¬ found.LiveAt key revision) ∧
      ∀ drawn, reply = .answer (some drawn) →
        left = found.record key .put value ∧ left.entry? key = some ⟨drawn, .put, value⟩

theorem reading_careful (l : BucketLine) (key value : String) : (l.reading key).Careful key value :=
  trivial

theorem reading_unheard (l : BucketLine) (key : String) (revision : Nat) :
    ¬ (l.reading key).Acknowledged revision := id

/-- A write is careful if what it expects is not the revision of a live entry. -/
theorem writing_careful (idle : ¬ l.atWrite.LiveAt key expected) :
    (l.writing key value expected).Careful key value := by
  have writes := l.write_writes key value expected
  unfold writing Request.Careful
  generalize (l.write key value expected).1 = reply at writes ⊢
  generalize (l.write key value expected).2.bucket = left at writes ⊢
  have vacant (current : l.atWrite.revision key = expected) (revision : Nat) :
      ¬ l.atWrite.LiveAt key revision := by
    intro live
    have same : revision = expected := live.current.symm.trans current
    exact idle (same ▸ live)
  cases writes with
  | acknowledged current =>
      refine ⟨.inr ⟨rfl, vacant current⟩, ?_⟩
      rintro drawn ⟨⟩
      exact ⟨rfl, by rw [Bucket.entry_record, if_pos rfl]⟩
  | unnoticed current => exact ⟨.inr ⟨rfl, vacant current⟩, nofun⟩
  | rejected superseded => exact ⟨.inl rfl, nofun⟩
  | undone reply unanswered => exact ⟨.inl rfl, fun drawn told => absurd told (unanswered _)⟩

/-- These are the requests of an operation that comes to this, and what may be said of them. -/
structure Composed (count : Nat) (l : BucketLine) (key value : String) (requests : List Request)
    (result : Ending Nat × BucketLine) : Prop where
  sends : Sends key value l requests result.2
  few : requests.length ≤ count
  careful : ∀ request ∈ requests, request.Careful key value
  heard : ∀ revision, result.1 = some (.ok revision) ↔
    ∃ request ∈ requests, request.Acknowledged revision

namespace Composed

variable {count : Nat} {requests : List Request} {result : Ending Nat × BucketLine}
  {ending : Ending Nat}

theorem weaken {more : Nat} (composed : Composed count l key value requests result)
    (le : count ≤ more) : Composed more l key value requests result :=
  { composed with few := Nat.le_trans composed.few le }

theorem none (failed : ∀ revision, ending ≠ some (.ok revision)) :
    Composed 0 l key value [] (ending, l) :=
  ⟨.none, Nat.le_refl _, by simp, by simp [failed]⟩

theorem read (rest : Composed count (l.read key).2 key value requests result) :
    Composed (count + 1) l key value (l.reading key :: requests) result where
  sends := .read rest.sends
  few := Nat.succ_le_succ rest.few
  careful := List.forall_mem_cons.mpr ⟨l.reading_careful key value, rest.careful⟩
  heard revision := by
    rw [rest.heard]
    simp [reading_unheard]

theorem write (careful : (l.writing key value expected).Careful key value)
    (unheard : ∀ revision, ¬ (l.writing key value expected).Acknowledged revision)
    (rest : Composed count (l.write key value expected).2 key value requests result) :
    Composed (count + 1) l key value (l.writing key value expected :: requests) result where
  sends := .write expected rest.sends
  few := Nat.succ_le_succ rest.few
  careful := List.forall_mem_cons.mpr ⟨careful, rest.careful⟩
  heard revision := by
    rw [rest.heard]
    simp [unheard]

/-- An operation that ends with a write, and of success with it alone. -/
theorem last (careful : (l.writing key value expected).Careful key value)
    (heard : ∀ revision, ending = some (.ok revision) ↔
      (l.writing key value expected).Acknowledged revision) :
    Composed 1 l key value [l.writing key value expected]
      (ending, (l.write key value expected).2) where
  sends := .write expected .none
  few := Nat.le_refl _
  careful := by simpa using careful
  heard revision := by simp [heard]

end Composed

theorem writing_acknowledged_iff (valid : BucketKeyValid key) :
    (l.update key value expected).1 = some (.ok revision) ↔
      (l.writing key value expected).Acknowledged revision := by
  rw [update_ok_iff]
  exact ⟨And.right, fun heard => ⟨valid, heard⟩⟩

theorem mapError_ok_iff {ending : Ending Nat} :
    (ending.map fun result => result.mapError BucketError.ofCreation) = some (.ok revision) ↔
      ending = some (.ok revision) := by
  cases ending with
  | none => simp
  | some result =>
      cases result with
      | ok drawn => exact Iff.rfl
      | error e =>
          refine iff_of_false (fun same => ?_) fun same => ?_
          · cases same
          · cases same

/-- A creation is a write where nothing was ever written, and if that fails a read, and if that finds
a deletion a write over it. -/
theorem create_composed (valid : BucketKeyValid key) (numbered : l.bucket.Numbered) (value : String) :
    ∃ requests, Composed 3 l key value requests (l.create key value) := by
  have first : (l.writing key value 0).Careful key value :=
    writing_careful ((later_precede l.bucket _).numbered numbered).not_liveAt_zero
  unfold create
  split
  next error between updated =>
    have unheard (revision : Nat) : ¬ (l.writing key value 0).Acknowledged revision := by
      rw [← writing_acknowledged_iff valid, updated]
      nofun
    have wrote : (l.write key value 0).2 = between := by
      rw [← update_line valid, updated]
    have sound : between.atRead.Numbered := by
      rw [← wrote]
      exact ((l.write_later key value 0).trans (later_precede _ _)).numbered numbered
    have inVain {ending : Ending Nat} {next : BucketLine} (got : (between.get key).2 = next)
        (failed : ∀ revision, ending ≠ some (.ok revision)) :
        ∃ requests, Composed 3 l key value requests (ending, next) := by
      rw [get_line valid] at got
      subst wrote got
      exact ⟨_, (Composed.write first unheard (.read (.none failed))).weaken (by decide)⟩
    split
    next e next got =>
      split
      next live => exact inVain (by rw [got]) nofun
      next gone =>
        obtain ⟨-, answered⟩ := get_ok_iff.mp (congrArg Prod.fst got)
        have present := entry_of_read answered
        have read : (between.read key).2 = next := by
          rw [← get_line valid, got]
        have found : Bucket.Later between.atRead next.atWrite := by
          rw [← read_bucket between key, read]
          exact later_precede _ _
        have second : (next.writing key value e.revision).Careful key value :=
          writing_careful (found.not_liveAt_of_gone sound present gone)
        subst wrote read
        dsimp only
        rw [update_line valid]
        refine ⟨_, .write first unheard (.read (.last second fun revision => ?_))⟩
        rw [mapError_ok_iff, writing_acknowledged_iff valid]
    next next got => exact inVain (by rw [got]) nofun
    next e next got => exact inVain (by rw [got]) nofun
    next next got => exact inVain (by rw [got]) nofun
  next =>
    have composed := Composed.last first fun revision => writing_acknowledged_iff valid
    rw [← update_line valid] at composed
    exact ⟨_, composed.weaken (by decide)⟩

theorem create_clear_of_gone {b : Bucket} (valid : BucketKeyValid key)
    (present : b.entry? key = some e) (gone : ¬ e.IsLive) (numbered : e.revision ≠ 0) :
    (clear b).create key value =
      (some (.ok (b.lastRevision + 1)), clear (b.record key .put value)) := by
  have current : b.revision key = e.revision := Bucket.revision_of_present present
  rw [create, update_clear valid, if_neg (by rw [current]; exact numbered)]
  simp only [get_clear valid, present, if_neg gone, update_clear valid, current, if_true]
  rfl

end BucketLine

namespace BucketStore

variable {s : BucketStore} {b : Bucket} {limit : Duration} {key : RecordKey} {record : LeaseRecord}
  {bucketKey : String} {error : StoreError}

/-- What the next read of a key finds, and what it comes to. -/
inductive Finds (s : BucketStore) (bucketKey : String) :
    Except StoreError (Option (LeaseRecord × Nat)) → Prop
  | live (e : BucketEntry) (record : LeaseRecord)
      (answered : (s.line.read bucketKey).1 = .answer (some e))
      (present : s.line.atRead.entry? bucketKey = some e) (live : e.IsLive) :
      Finds s bucketKey (.ok (some (record, e.revision)))
  | gone (entry : Option BucketEntry) (answered : (s.line.read bucketKey).1 = .answer entry)
      (present : s.line.atRead.entry? bucketKey = entry) (gone : ∀ e, entry = some e → ¬ e.IsLive) :
      Finds s bucketKey (.ok none)
  | unheard (error : StoreError) (outage : error.IsOutage)
      (told : s.report "read" bucketKey (s.line.get bucketKey).1 = .error error) :
      Finds s bucketKey (.error error)
  | unreadable (reason : String) : Finds s bucketKey (.error (.codec reason))

theorem read_finds (s : BucketStore) (bucketKey : String) :
    Finds s bucketKey (s.read bucketKey).1 := by
  by_cases got : ∃ entry, (s.line.get bucketKey).1 = some (.ok entry)
  · obtain ⟨entry, got⟩ := got
    obtain ⟨-, answered⟩ := BucketLine.get_ok_iff.mp got
    have present := BucketLine.entry_of_read answered
    simp only [read, got, report]
    cases entry with
    | none =>
        refine .gone none answered present ?_
        intro e found
        cases found
    | some e =>
        dsimp only
        split
        next live =>
          cases decoded : LeaseRecord.decode e.value with
          | error error =>
              obtain ⟨reason, rfl⟩ := LeaseRecord.decode_error decoded
              exact .unreadable reason
          | ok record => exact .live e record answered present live
        next gone =>
          refine .gone (some e) answered present ?_
          rintro _ ⟨⟩
          exact gone
  · obtain ⟨error, outage, reported⟩ := s.report_failed "read" bucketKey (not_exists.mp got)
    simp only [read, reported]
    exact .unheard error outage reported

theorem create_append_ne (one other : String) : "create" ++ one ≠ "read" ++ other := by
  intro same
  have letters := congrArg String.toList same
  simp at letters

/-- A creation that failed is never reported as a read that failed. -/
theorem report_create_ne_read {α β : Type} {next : BucketStore} {ending : Ending α}
    {other : Ending β} {reason : StoreError}
    (wrote : s.report "create" bucketKey ending = .error error)
    (read : next.report "read" bucketKey other = .error reason) : error ≠ reason := by
  unfold report at wrote read
  simp only [String.append_assoc] at wrote read
  split at wrote <;> cases wrote <;> split at read <;> cases read <;> simp [create_append_ne]

/-- What a creation does in these requests, and what its answer says. -/
structure Scrupulous (s : BucketStore) (key : RecordKey) (record : LeaseRecord)
    (requests : List BucketLine.Request) : Prop where
  sends : BucketLine.Sends key.bucketKey record.encode s.line requests (s.create key record).2.line
  few : requests.length ≤ 4
  /-- Nothing is changed but the key, which gets the record, and that only while it is not live. -/
  careful : ∀ request ∈ requests, request.Careful key.bucketKey record.encode
  success : ∀ token, (s.create key record).1 = .ok token ↔
    ∃ revision, token = .ofRevision revision ∧ ∃ request ∈ requests, request.Acknowledged revision
  /-- Who is told of another record owes it to the last read, which has found one. -/
  existing : ∀ other, (s.create key record).1 = .error (.alreadyExists other) → other = key ∧
    ∃ before found e, requests = before ++ [.read found (.answer (some e))] ∧
      found.entry? key.bucketKey = some e ∧ e.IsLive
  /-- Who is told how the creation itself failed owes it to the last read, which has found nothing. -/
  own : ∀ error, s.report "create" key.bucketKey
      (s.line.create key.bucketKey record.encode).1 = .error error →
    (s.create key record).1 = .error error → error.IsOutage ∧
      ∃ before found entry, requests = before ++ [.read found (.answer entry)] ∧
        found.entry? key.bucketKey = entry ∧ ∀ e, entry = some e → ¬ e.IsLive

/-- The store once the creation proper has come to its end. -/
def creating (s : BucketStore) (key : RecordKey) (record : LeaseRecord) : BucketStore :=
  { s with line := (s.line.create key.bucketKey record.encode).2 }

theorem scrupulous_of_success {requests : List BucketLine.Request} {revision : Nat}
    (composed : BucketLine.Composed 3 s.line key.bucketKey record.encode requests
      (s.line.create key.bucketKey record.encode))
    (created : (s.line.create key.bucketKey record.encode).1 = some (.ok revision)) :
    Scrupulous s key record requests := by
  have create : s.create key record = (.ok (.ofRevision revision), s.creating key record) := by
    rw [create_eq, created]
    rfl
  refine ⟨?_, Nat.le_succ_of_le composed.few, composed.careful, ?_, ?_, ?_⟩
  · rw [create]
    exact composed.sends
  · intro token
    have heard (drawn : Nat) := composed.heard drawn
    simp only [created, Option.some.injEq, Except.ok.injEq] at heard
    simp [create, ← heard, eq_comm]
  · intro other failed
    rw [create] at failed
    cases failed
  · intro error reported
    rw [created] at reported
    cases reported

theorem scrupulous_of_failure (valid : BucketKeyValid key.bucketKey)
    {requests : List BucketLine.Request}
    (composed : BucketLine.Composed 3 s.line key.bucketKey record.encode requests
      (s.line.create key.bucketKey record.encode))
    (failed : ∀ revision, (s.line.create key.bucketKey record.encode).1 ≠ some (.ok revision)) :
    Scrupulous s key record
      (requests ++ [(s.creating key record).line.reading key.bucketKey]) := by
  obtain ⟨reason, outage, reported, create⟩ := conclude_failed (s.creating key record) "create"
    key.bucketKey (createBlame key) failed
  rw [creating, ← create_eq, ← creating] at create
  have unheard (revision : Nat) : ¬ ∃ request ∈ requests, request.Acknowledged revision :=
    mt (composed.heard revision).mpr (failed revision)
  refine ⟨?_, ?_, ?_, ?_, ?_, ?_⟩
  · rw [create, read_store, BucketLine.get_line valid]
    exact composed.sends.readBack
  · rw [List.length_append, List.length_singleton]
    exact Nat.succ_le_succ composed.few
  · simpa [or_imp, forall_and, BucketLine.reading_careful] using composed.careful
  · intro token
    constructor
    · intro succeeded
      rw [create] at succeeded
      cases outcome : ((s.creating key record).read key.bucketKey).1 <;>
        rw [outcome] at succeeded <;> cases succeeded
    · rintro ⟨revision, -, request, member, heard⟩
      rcases List.mem_append.mp member with before | last
      · exact absurd ⟨request, before, heard⟩ (unheard revision)
      · rw [List.mem_singleton.mp last] at heard
        exact heard.elim
  all_goals
    have finds := (s.creating key record).read_finds key.bucketKey
    rw [create]
    generalize ((s.creating key record).read key.bucketKey).1 = outcome at finds ⊢
  · intro other told
    cases finds with
    | live e record answered present live =>
        cases told
        exact ⟨rfl, requests, _, e, by rw [BucketLine.reading, answered], present, live⟩
    | gone entry answered present gone =>
        cases told
        exact absurd (.inl trivial) outage.not_blaming
    | unheard error outage told' =>
        cases told
        exact absurd (.inl trivial) outage.not_blaming
    | unreadable reason => cases told
  · intro error wrote told
    have same : reason = error := Except.error.inj (reported.symm.trans wrote)
    subst same
    cases finds with
    | live e record answered present live =>
        have existing : .alreadyExists key = reason := Except.error.inj told
        rw [← existing] at outage
        exact absurd (.inl trivial) outage.not_blaming
    | gone entry answered present gone =>
        exact ⟨outage, requests, _, entry, by rw [BucketLine.reading, answered], present, gone⟩
    | unheard error outage told' =>
        cases told
        exact absurd rfl (report_create_ne_read wrote told')
    | unreadable reason =>
        cases told
        exact absurd rfl outage.not_codec

/-- About a key that the bucket does not take nothing is ever asked or written. -/
theorem scrupulous_of_invalid (invalid : ¬ BucketKeyValid key.bucketKey) (s : BucketStore)
    (record : LeaseRecord) : Scrupulous s key record [] := by
  have get : s.line.get key.bucketKey = (some (.error .invalidKey), s.line) := if_pos invalid
  have update : s.line.update key.bucketKey record.encode 0 = (some (.error .invalidKey), s.line) :=
    if_pos invalid
  have proper : s.line.create key.bucketKey record.encode =
      (some (.error .invalidKey), s.line) := by
    rw [BucketLine.create, update]
    dsimp only
    rw [get]
    rfl
  have unread : ∀ entry, (s.line.get key.bucketKey).1 ≠ some (.ok entry) := by
    rw [get]
    intro entry found
    cases found
  obtain ⟨reason, outage, told⟩ := s.report_failed "read" key.bucketKey unread
  have read : s.read key.bucketKey = (.error reason, s) := by
    refine Prod.ext ?_ ?_
    · simp only [BucketStore.read, told]
    · rw [read_store, get]
  have create : s.create key record = (.error reason, s) := by
    rw [create_eq, proper]
    have unwritten : ∀ revision, (some (.error .invalidKey) : Ending Nat) ≠ some (.ok revision) := by
      intro revision found
      cases found
    obtain ⟨error, -, -, concluded⟩ :=
      s.conclude_failed "create" key.bucketKey (createBlame key) unwritten
    rw [concluded, read]
    rfl
  refine ⟨?_, by simp, by simp, ?_, ?_, ?_⟩
  · rw [create]
    exact .none
  · simp [create]
  · intro other failed
    rw [create] at failed
    cases failed
    exact absurd (.inl trivial) outage.not_blaming
  · intro error wrote failed
    rw [create] at failed
    cases failed
    exact absurd rfl (report_create_ne_read wrote told)

/-- In whatever state the bucket is, a creation is scrupulous. -/
theorem exists_scrupulous (numbered : s.line.bucket.Numbered) (key : RecordKey)
    (record : LeaseRecord) : ∃ requests, Scrupulous s key record requests := by
  by_cases valid : BucketKeyValid key.bucketKey
  · obtain ⟨requests, composed⟩ := BucketLine.create_composed valid numbered record.encode
    by_cases created : ∃ revision,
        (s.line.create key.bucketKey record.encode).1 = some (.ok revision)
    · obtain ⟨revision, created⟩ := created
      exact ⟨requests, scrupulous_of_success composed created⟩
    · exact ⟨_, scrupulous_of_failure valid composed (not_exists.mp created)⟩
  · exact ⟨[], scrupulous_of_invalid valid s record⟩

theorem create_of_gone (valid : BucketKeyValid key.bucketKey) (numbered : b.Numbered)
    (gone : ∀ revision, ¬ b.LiveAt key.bucketKey revision) (record : LeaseRecord) :
    (direct b limit).create key record = (.ok (.ofRevision (b.lastRevision + 1)),
      direct (b.record key.bucketKey .put record.encode) limit) := by
  cases present : b.entry? key.bucketKey with
  | none => exact create_of_absent valid present record
  | some e =>
      have dead : ¬ e.IsLive := by
        obtain ⟨revision, operation, value⟩ := e
        intro live
        have live : operation = .put := live
        subst live
        exact gone revision ⟨value, present⟩
      rw [create_eq, direct]
      dsimp only
      rw [BucketLine.create_clear_of_gone valid present dead (numbered _ e present).1]
      rfl

theorem create_of_live (valid : BucketKeyValid key.bucketKey) (numbered : b.Numbered)
    {e : BucketEntry} (present : b.entry? key.bucketKey = some e) (live : e.IsLive)
    {held : LeaseRecord} (decoded : LeaseRecord.decode e.value = .ok held) (record : LeaseRecord) :
    (direct b limit).create key record = (.error (.alreadyExists key), direct b limit) := by
  have answered : ((direct b limit).line.read key.bucketKey).1 = .answer (some e) :=
    congrArg Reply.answer present
  have read : (direct b limit).read key.bucketKey = (.ok (some (held, e.revision)), direct b limit) :=
    Prod.ext (read_of_answer valid answered live decoded) (read_unchanged limit valid)
  unfold direct at read
  rw [create_eq, direct]
  dsimp only
  rw [BucketLine.create_clear_of_live valid present live (numbered _ e present).1, conclude]
  simp only [report, read]
  rfl

/-- Whatever befalls its requests and whatever others do meanwhile, a creation never changes a live
entry, and its answer is true. Left to itself it succeeds exactly where there is no live entry. -/
theorem creation_kept :
    (∀ (s : BucketStore) (key : RecordKey) (record : LeaseRecord), s.line.bucket.Numbered →
      ∃ requests, Scrupulous s key record requests) ∧
    (∀ (b : Bucket) (limit : Duration) (key : RecordKey) (record : LeaseRecord), b.Numbered →
      BucketKeyValid key.bucketKey →
        ((∀ revision, ¬ b.LiveAt key.bucketKey revision) →
          (direct b limit).create key record = (.ok (.ofRevision (b.lastRevision + 1)),
            direct (b.record key.bucketKey .put record.encode) limit)) ∧
        (∀ e held, b.entry? key.bucketKey = some e → e.IsLive →
          LeaseRecord.decode e.value = .ok held →
            (direct b limit).create key record = (.error (.alreadyExists key), direct b limit))) := by
  constructor
  · intro s key record numbered
    exact exists_scrupulous numbered key record
  · intro b limit key record numbered valid
    constructor
    · intro gone
      exact create_of_gone valid numbered gone record
    · intro e held present live decoded
      exact create_of_live valid numbered present live decoded record

/-- A creation over a deletion in whose way another participant comes between its read and its second
write; the same creation with nothing in the way; and one that finds a live entry. -/
theorem creation_kept_overtaken : ∃ b held : Bucket, b.Numbered ∧
    (∃ requests, Scrupulous ⟨⟨b, [], [.none, ⟨[.put "ns/lock" "rival"], .answered⟩]⟩, .ofSeconds 1⟩
      ⟨"ns", "lock"⟩ default requests) ∧
    BucketKeyValid (RecordKey.bucketKey ⟨"ns", "lock"⟩) ∧
    (∀ revision, ¬ b.LiveAt (RecordKey.bucketKey ⟨"ns", "lock"⟩) revision) ∧
    (direct b (.ofSeconds 1)).create ⟨"ns", "lock"⟩ default = (.ok (.ofRevision 3),
      direct (b.record (RecordKey.bucketKey ⟨"ns", "lock"⟩) .put (default : LeaseRecord).encode)
        (.ofSeconds 1)) ∧
    held.Numbered ∧ held.LiveAt (RecordKey.bucketKey ⟨"ns", "lock"⟩) 1 ∧
    (direct held (.ofSeconds 1)).create ⟨"ns", "lock"⟩ default =
      (.error (.alreadyExists ⟨"ns", "lock"⟩), direct held (.ofSeconds 1)) := by
  have numbered : ((Bucket.empty.change (.put "ns/lock" "")).change (.delete "ns/lock")).Numbered :=
    Bucket.empty_numbered.record.record
  have valid : BucketKeyValid (RecordKey.bucketKey ⟨"ns", "lock"⟩) := by decide
  have gone (revision : Nat) :
      ¬ ((Bucket.empty.change (.put "ns/lock" "")).change (.delete "ns/lock")).LiveAt
        (RecordKey.bucketKey ⟨"ns", "lock"⟩) revision := by
    rintro ⟨value, present⟩
    cases present
  have present : Bucket.entry? (Bucket.empty.change (.put "ns/lock" (default : LeaseRecord).encode))
      (RecordKey.bucketKey ⟨"ns", "lock"⟩) = some ⟨1, .put, (default : LeaseRecord).encode⟩ := rfl
  have decoded : LeaseRecord.decode (default : LeaseRecord).encode = .ok default :=
    LeaseRecord.decodeGlyphs_encode default
  exact ⟨_, _, numbered, creation_kept.1 _ _ _ numbered, valid, gone,
    (creation_kept.2 _ _ _ _ numbered valid).1 gone, Bucket.empty_numbered.record, ⟨_, present⟩,
    (creation_kept.2 _ _ _ _ Bucket.empty_numbered.record valid).2 _ _ present rfl decoded⟩

end BucketStore

end LeaseElection
