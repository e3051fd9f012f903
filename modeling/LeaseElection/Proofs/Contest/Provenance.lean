import LeaseElection.Proofs.Contest.Basic
import LeaseElection.Proofs.Course.Lawful
import LeaseElection.Proofs.Lease.Record

namespace LeaseElection

/-- How a participant comes to write a record over a version at some time. -/
inductive Derives (R : Roster ι) (i : ι) (begun : Nat) (v : Version ι τ) (record : LeaseRecord) :
    Prop
  | takesOver
      (claimable : v.record.IsVacant ∨ v.record.holder = (R.config i).identity ∨
        v.record.IsExpired (R.wall i begun) ∨
        v.begun + v.record.leaseSeconds.toNat * Duration.nanosPerSecond < begun)
      (made : record =
        v.record.takenOverBy (R.config i).identity (R.config i).lease (R.wall i begun))
  | renews (own : v.record.holder = (R.config i).identity)
      (made : record = v.record.renewed (R.config i).lease (R.wall i begun))
  | releases (own : v.record.holder = (R.config i).identity)
      (made : record = v.record.released (R.wall i begun))

namespace Version

/-- A version is a first claim where there was none, else it is made from the one it replaces. -/
def Follows (R : Roster ι) (v : Version ι τ) : List (Version ι τ) → Prop
  | [] => v.record = .claimed (R.config v.writer).identity (R.config v.writer).lease
      (R.wall v.writer v.begun)
  | old :: _ => old.begun ≤ v.begun ∧ Derives R v.writer v.begun old v.record

def Chained (R : Roster ι) : List (Version ι τ) → Prop
  | [] => True
  | v :: older => v.Follows R older ∧ Chained R older

def Named (versions : List (Version ι τ)) : Prop :=
  ∀ v ∈ versions, ∀ other ∈ versions, v.token = other.token → v = other

end Version

/-- A claim of a participant is one of the versions. -/
def Held.Grounded (versions : List (Version ι τ)) (identity : String) (held : Held τ) : Prop :=
  ∃ v ∈ versions, v.token = held.token ∧ v.record = held.record ∧ v.record.holder = identity

/-- A sighting is of one of the versions, and not from before it was written. -/
def Sighting.Grounded (versions : List (Version ι τ)) (offset : Nat) (s : Sighting τ) : Prop :=
  ∃ v ∈ versions, v.token = s.token ∧ offset + v.begun ≤ s.since

namespace Request

/-- What a participant may ask the store to write. -/
def Founded (R : Roster ι) (versions : List (Version ι τ)) (i : ι) (begun : Nat) :
    StoreCall τ → Prop
  | .get => True
  | .create record =>
      record = .claimed (R.config i).identity (R.config i).lease (R.wall i begun)
  | .update record token => ∃ v ∈ versions, v.token = token ∧ v.begun ≤ begun ∧
      Derives R i begun v record

/-- What may have come of a call. -/
def Honest (versions : List (Version ι τ)) (i : ι) (request : Request τ) : Prop :=
  match request.outcome with
  | some (.found current) => ∃ v ∈ versions, v.toVersioned = current
  | some (.written token) => ∃ v ∈ versions, v.token = token ∧ v.writer = i ∧
      v.begun = request.begun ∧ request.call.record? = some v.record
  | _ => True

end Request

/-- The call under way is the one that the stage is about. -/
def Stage.Awaits (offset : Nat) (request : Request τ) : Stage τ → Prop
  | .claiming _ record stamped | .renewing _ record stamped =>
      request.call.record? = some record ∧ stamped = offset + request.begun
  | _ => True

/-- The claim that a participant leads by at this stage, or is about to give up. -/
def Stage.Holds (held : Held τ) : Stage τ → Prop
  | .holding kept _ | .renewing kept .. | .rereading kept | .stopping kept _ => kept = held
  | _ => False

namespace Contest

variable {ι τ : Type} [DecidableEq ι] [DecidableEq τ] (R : Roster ι)

/-- What is known of one participant's call list, claim and sighting. -/
structure Seated (w : Contest ι τ) (i : ι) : Prop where
  reachable : Course.Reachable (R.config i) R.pace (w.seats i)
  clock : (w.seats i).now = R.offset i + w.now
  dated : ∀ request ∈ w.requests i, request.begun ≤ w.now
  founded : ∀ request ∈ w.requests i,
    Request.Founded R w.versions i request.begun request.call
  honest : ∀ request ∈ w.requests i, request.Honest w.versions i
  awaits : (w.seats i).elector.stage.Calls → ∃ request earlier,
    w.requests i = request :: earlier ∧
      (w.seats i).elector.stage.Awaits (R.offset i) request
  sighted : ∀ s, (w.seats i).elector.sighting = some s → s.Grounded w.versions (R.offset i)
  held : ∀ held, (w.seats i).elector.stage.Holds held →
    held.Grounded w.versions (R.config i).identity

structure Sound (w : Contest ι τ) : Prop where
  named : Version.Named w.versions
  dated : ∀ v ∈ w.versions, v.begun ≤ w.now
  chained : Version.Chained R w.versions
  seated : ∀ i, w.Seated R i

end Contest

section

variable {ι τ : Type} {R : Roster ι} {i : ι} {begun : Nat} {versions : List (Version ι τ)}

/-- A version carries the time of its write, and is vacant or held by its writer. -/
def Version.Genuine (R : Roster ι) (v : Version ι τ) : Prop :=
  v.record.renewTime = R.wall v.writer v.begun ∧
    (v.record.IsVacant ∨ (v.record.holder = (R.config v.writer).identity ∧
      v.record.leaseSeconds = LeaseRecord.recordedSeconds (R.config v.writer).lease))

theorem Version.Follows.genuine {v : Version ι τ} {older : List (Version ι τ)}
    (follows : v.Follows R older) : v.Genuine R := by
  obtain ⟨⟨record, token⟩, writer, begun⟩ := v
  cases older with
  | nil =>
      simp only [Version.Follows] at follows
      subst follows
      exact ⟨rfl, .inr ⟨rfl, rfl⟩⟩
  | cons old older =>
      obtain ⟨-, derives⟩ := follows
      cases derives with
      | takesOver claimable made =>
          have stamp := old.record.takenOverBy_stamp (R.config writer).identity
            (R.config writer).lease (R.wall writer begun)
          have holder := old.record.takenOverBy_holder (R.config writer).identity
            (R.config writer).lease (R.wall writer begun)
          rw [← made] at stamp holder
          exact ⟨stamp.1, .inr ⟨holder, stamp.2⟩⟩
      | renews own made =>
          have stamp := old.record.renewed_stamp (R.config writer).lease (R.wall writer begun)
          have holder := old.record.renewed_holder (R.config writer).lease (R.wall writer begun)
          rw [← made] at stamp holder
          exact ⟨stamp.1, .inr ⟨holder.trans own, stamp.2⟩⟩
      | releases own made =>
          dsimp only at made
          subst made
          exact ⟨rfl, .inl rfl⟩

theorem Version.Chained.genuine (chained : Version.Chained R versions) :
    ∀ v ∈ versions, v.Genuine R := by
  induction versions with
  | nil => simp
  | cons newest older ih =>
      intro v among
      rcases List.mem_cons.mp among with rfl | before
      · exact chained.1.genuine
      · exact ih chained.2 v before

theorem Version.serve_cases [DecidableEq τ] (versions : List (Version ι τ)) (key : RecordKey)
    (writer : ι) (begun : Nat) (token : τ) (call : StoreCall τ) :
    ((serve versions key writer begun token call).2 = versions ∧
      ((∃ error, (serve versions key writer begun token call).1 = .failed error) ∨
        ∃ v ∈ versions,
          (serve versions key writer begun token call).1 = .found v.toVersioned)) ∨
    ∃ record, call.record? = some record ∧
      (serve versions key writer begun token call).1 = .written token ∧
      (serve versions key writer begun token call).2 =
        ⟨⟨record, token⟩, writer, begun⟩ :: versions ∧
      ((versions = [] ∧ call = .create record) ∨
        ∃ newest older, versions = newest :: older ∧ call = .update record newest.token) := by
  cases call with
  | get =>
      cases versions with
      | nil => exact .inl ⟨rfl, .inl ⟨_, rfl⟩⟩
      | cons newest older => exact .inl ⟨rfl, .inr ⟨newest, List.mem_cons_self, rfl⟩⟩
  | create record =>
      cases versions with
      | nil => exact .inr ⟨record, rfl, rfl, rfl, .inl ⟨rfl, rfl⟩⟩
      | cons newest older => exact .inl ⟨rfl, .inl ⟨_, rfl⟩⟩
  | update record presented =>
      cases versions with
      | nil => exact .inl ⟨rfl, .inl ⟨_, rfl⟩⟩
      | cons newest older =>
          by_cases same : newest.token = presented
          · subst same
            exact .inr ⟨record, rfl, by simp [serve], by simp [serve],
              .inr ⟨newest, older, rfl, rfl⟩⟩
          · exact .inl ⟨by simp [serve, same], .inl ⟨.conflict key "", by simp [serve, same]⟩⟩

end

end LeaseElection
