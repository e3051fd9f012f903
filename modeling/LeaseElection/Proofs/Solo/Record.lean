import LeaseElection.Proofs.Contest.Provenance
import LeaseElection.Proofs.Solo.Basic

namespace LeaseElection

/-- The stored version has this token, and of the calls that are yet to take effect only such ones
would replace it. -/
structure RestsBut (but : Asking τ → Prop) (versions : List (Version Unit τ))
    (askings : List (Asking τ)) (token : τ) : Prop where
  newest : ∃ newest older, versions = newest :: older ∧ newest.token = token
  unasked : ∀ asking ∈ askings, asking.outcome = none →
    ∀ record, asking.call = .update record token → but asking

/-- The stored version has this token, and no call that is yet to take effect would replace it. -/
abbrev Rests (versions : List (Version Unit τ)) (askings : List (Asking τ)) (token : τ) : Prop :=
  RestsBut (fun _ => False) versions askings token

section

variable {but : Asking τ → Prop} {versions : List (Version Unit τ)} {askings : List (Asking τ)}
  {token : τ}

theorem RestsBut.stored (rests : RestsBut but versions askings token) :
    ∃ v ∈ versions, v.token = token := by
  obtain ⟨newest, older, rfl, same⟩ := rests.newest
  exact ⟨newest, List.mem_cons_self, same⟩

theorem RestsBut.mono {more : Asking τ → Prop} (rests : RestsBut but versions askings token)
    (implies : ∀ asking, but asking → more asking) : RestsBut more versions askings token :=
  ⟨rests.newest, fun asking among pending record presents =>
    implies asking (rests.unasked asking among pending record presents)⟩

/-- A call that has taken effect replaces nothing any more. -/
theorem RestsBut.settle {later earlier : List (Asking τ)} {asking served : Asking τ}
    (rests : RestsBut but versions (later ++ asking :: earlier) token)
    (settled : served.outcome ≠ none) :
    RestsBut but versions (later ++ served :: earlier) token := by
  refine ⟨rests.newest, ?_⟩
  intro other among pending
  rcases List.mem_append.mp among with before | ⟨⟩ | ⟨_, after⟩
  · exact rests.unasked other (List.mem_append_left _ before) pending
  · exact absurd pending settled
  · exact rests.unasked other (List.mem_append_right _ (List.mem_cons_of_mem _ after)) pending

end

namespace Asking

/-- The call is one that is begun at its stage. -/
def Apt (identity : String) (asking : Asking τ) : Prop :=
  match asking.stage with
  | .claiming .. => True
  | .renewing .. => ∃ record token, asking.call = .update record token ∧ record.holder = identity
  | .releasing _ => ∃ record token, asking.call = .update record token ∧ record.IsVacant
  | _ => asking.call = .get

/-- What is known of a call. -/
structure Sound (identity : String) (process : Nat) (versions : List (Version Unit τ))
    (asking : Asking τ) : Prop where
  aged : asking.process ≤ process
  apt : asking.Apt identity
  unheard : asking.outcome = none → asking.heard = false
  founded : ∀ record token, asking.call = .update record token → ∃ v ∈ versions, v.token = token
  found : ∀ current, asking.outcome = some (.found current) → ∃ v ∈ versions, v.token = current.token
  stored : ∀ token, asking.outcome = some (.written token) → ∃ v ∈ versions, v.token = token
  wrote : ∀ v ∈ versions, asking.outcome = some (.written v.token) →
    asking.call.record? = some v.record

theorem Sound.grow {identity : String} {process : Nat} {versions : List (Version Unit τ)}
    {asking : Asking τ} (sound : asking.Sound identity process versions) (new : Version Unit τ)
    (fresh : ∀ v ∈ versions, v.token ≠ new.token) :
    asking.Sound identity process (new :: versions) where
  aged := sound.aged
  apt := sound.apt
  unheard := sound.unheard
  founded record token presents := by
    obtain ⟨v, stored, same⟩ := sound.founded record token presents
    exact ⟨v, List.mem_cons_of_mem _ stored, same⟩
  found current outcome := by
    obtain ⟨v, stored, same⟩ := sound.found current outcome
    exact ⟨v, List.mem_cons_of_mem _ stored, same⟩
  stored token written := by
    obtain ⟨v, stored, same⟩ := sound.stored token written
    exact ⟨v, List.mem_cons_of_mem _ stored, same⟩
  wrote v among written := by
    rcases List.mem_cons.mp among with rfl | before
    · obtain ⟨old, stored, same⟩ := sound.stored _ written
      exact absurd same (fresh old stored)
    · exact sound.wrote v before written

end Asking

/-- A new version rests: no call can have been begun that would replace it. -/
theorem rests_of_fresh {versions : List (Version Unit τ)} {askings : List (Asking τ)}
    (written : Version Unit τ)
    (founded : ∀ asking ∈ askings, ∀ record token, asking.call = .update record token →
      ∃ v ∈ versions, v.token = token)
    (fresh : ∀ v ∈ versions, v.token ≠ written.token) :
    Rests (written :: versions) askings written.token := by
  refine ⟨⟨written, versions, rfl, rfl⟩, ?_⟩
  intro asking among _ record presents
  obtain ⟨v, stored, same⟩ := founded asking among record _ presents
  exact fresh v stored same

namespace Solo

variable (c : ElectionConfig) (w : Solo τ)

/-- The version of this token stays. Its record is vacant, unless a renewal came before the
release. -/
def Decided (token : τ) : Prop :=
  Rests w.versions w.askings token ∧ (w.Vacated ∨ w.Overtaken)

/-- No renewal of the present process is yet to replace the stored version. -/
def Spent : Prop := ∀ asking ∈ w.askings, asking.outcome = none → w.IsOwnRenewal asking →
  ∀ newest ∈ w.versions.head?, ∀ record, asking.call ≠ .update record newest.token

/-- A record that the participant holds was there before this run, or was written by a call that
was given up while the lease was sought, or when a process ended. -/
def Clear : Prop := w.Holds c → w.versions = w.before ∨ w.Strayed

/-- If the call under way has written a version, then that one rests. -/
def Claims : Prop := ∀ latest ∈ w.askings.head?, ∀ token,
  latest.outcome = some (.written token) → Rests w.versions w.askings token

/-- The call under way replaces the version that is held, or has replaced it. -/
def Renews (held : Held τ) : Prop :=
  ∃ latest earlier record, w.askings = latest :: earlier ∧ latest.call = .update record held.token ∧
    w.IsOwnRenewal latest ∧ latest.heard = false ∧
      ((latest.outcome = none ∧ Rests w.versions earlier held.token) ∨
        ∃ token, latest.outcome = some (.written token) ∧ token ≠ held.token ∧
          Rests w.versions w.askings token)

/-- A claim is about to be left; if that is because the caller cancelled, a renewal may be given
up. -/
def Quits (held : Held τ) (reason : StopReason) : Prop :=
  (∃ v ∈ w.versions, v.token = held.token) ∧
    (RestsBut (fun asking => reason = .cancelled ∧ w.IsOwnRenewal asking) w.versions w.askings
        held.token ∨
      ∃ token, token ≠ held.token ∧ w.Decided token)

/-- The call under way replaces the version that was held by a vacant one, unless a renewal has
replaced that version. -/
def Releases : Prop :=
  ∃ latest earlier deadline record token, w.askings = latest :: earlier ∧
    latest.stage = .releasing deadline ∧ latest.call = .update record token ∧
      ((latest.outcome = none ∧ RestsBut w.IsOwnRenewal w.versions earlier token) ∨
        ∃ token, w.Decided token)

/-- How a run ended that returned as cancelled. -/
def Ended : Prop := w.Returned → (w.Elected c → ∃ token, w.Decided token) ∧ (¬ w.Elected c → w.Clear c)

/-- What is known of the record at a stage. -/
def Stands : Stage τ → Prop
  | .idle => w.Spent ∧ w.Ended c
  | .reading _ | .waiting _ => w.Clear c ∧ w.Spent
  | .claiming .. => (w.Clear c ∧ w.Spent) ∧ w.Claims
  | .holding held _ => Rests w.versions w.askings held.token
  | .renewing held .. => w.Renews held
  | .rereading _ => False
  | .stopping held reason => w.Quits held reason
  | .releasing _ => w.Releases ∧ w.Elected c

structure Sound : Prop where
  each : ∀ asking ∈ w.askings, asking.Sound c.identity w.process w.versions
  idle : w.Returned → w.seat.elector.stage = .idle
  stands : w.Stands c w.seat.elector.stage

variable {c w}

theorem spent_of_rests {token : τ}
    (rests : RestsBut (fun asking => ¬ w.IsOwnRenewal asking) w.versions w.askings token) :
    w.Spent := by
  intro asking among pending own newest stored record presents
  obtain ⟨_, older, versions, same⟩ := rests.newest
  rw [versions] at stored
  cases stored
  exact rests.unasked asking among pending record (same ▸ presents) own

theorem IsOwnRenewal.not_isStray {asking : Asking τ} (own : w.IsOwnRenewal asking) :
    ¬ w.IsStray asking := by
  rintro (claim | ⟨-, former⟩)
  · have renewal := own.1
    unfold Asking.IsClaim at claim
    split at claim
    next stage => simp [Asking.IsRenewal, stage] at renewal
    · exact claim
  · exact former own.2

theorem not_isStray_of_releasing {asking : Asking τ} {deadline : Nat}
    (stage : asking.stage = .releasing deadline) : ¬ w.IsStray asking := by
  simp [IsStray, Asking.IsClaim, Asking.IsRenewal, stage]

section Serving

variable [DecidableEq τ] {later earlier : List (Asking τ)} {asking : Asking τ} {token : τ}

/-- A call that takes effect writes nothing, or a new version. -/
theorem serve_cases (c : ElectionConfig) (w : Solo τ) (later : List (Asking τ))
    (asking : Asking τ) (earlier : List (Asking τ)) (token : τ) :
    ((w.serve c later asking earlier token).versions = w.versions ∧
      ((∃ error, (w.served c asking.call token).1 = .failed error) ∨
        ∃ v ∈ w.versions, (w.served c asking.call token).1 = .found v.toVersioned)) ∨
    ∃ record, asking.call.record? = some record ∧ (w.served c asking.call token).1 = .written token ∧
      (w.serve c later asking earlier token).versions =
        ⟨⟨record, token⟩, (), w.seat.now⟩ :: w.versions ∧
      ((w.versions = [] ∧ asking.call = .create record) ∨
        ∃ newest older, w.versions = newest :: older ∧
          asking.call = .update record newest.token) :=
  Version.serve_cases w.versions c.key () w.seat.now token asking.call

theorem served_of_newest (c : ElectionConfig) (token : τ) {presented : τ}
    (stored : ∃ newest older, w.versions = newest :: older ∧ newest.token = presented)
    {record : LeaseRecord} (presents : asking.call = .update record presented) :
    (w.served c asking.call token).1 = .written token := by
  obtain ⟨newest, older, versions, same⟩ := stored
  simp [served, Version.serve, presents, versions, same]

theorem mem_serve {other : Asking τ} (asked : w.askings = later ++ asking :: earlier)
    (among : other ∈ (w.serve c later asking earlier token).askings) :
    other = { asking with outcome := some (w.served c asking.call token).1 } ∨
      other ∈ w.askings := by
  rw [asked]
  rcases List.mem_append.mp among with before | ⟨⟩ | ⟨_, after⟩
  · exact .inr (List.mem_append_left _ before)
  · exact .inl rfl
  · exact .inr (List.mem_append_right _ (List.mem_cons_of_mem _ after))

/-- What a call came to that took effect earlier stays what it was. -/
theorem mem_serve_of_settled {other : Asking τ} (asked : w.askings = later ++ asking :: earlier)
    (pending : asking.outcome = none) (among : other ∈ w.askings) (settled : other.outcome ≠ none) :
    other ∈ (w.serve c later asking earlier token).askings := by
  rw [asked] at among
  rcases List.mem_append.mp among with before | ⟨⟩ | ⟨_, after⟩
  · exact List.mem_append_left _ before
  · exact absurd pending settled
  · exact List.mem_append_right _ (List.mem_cons_of_mem _ after)

theorem Wrote.serve {other : Asking τ} (wrote : w.Wrote other)
    (asked : w.askings = later ++ asking :: earlier) (pending : asking.outcome = none)
    (unwritten : (w.serve c later asking earlier token).versions = w.versions) :
    (w.serve c later asking earlier token).Wrote other := by
  obtain ⟨among, unheard, newest, stored, written⟩ := wrote
  exact ⟨mem_serve_of_settled asked pending among (by simp [written]), unheard, newest,
    unwritten ▸ stored, written⟩

omit [DecidableEq τ] in
theorem unwritten_of_unread {answer : StoreAnswer τ}
    (unread : (∃ error, answer = .failed error) ∨ ∃ v ∈ w.versions, answer = .found v.toVersioned)
    (given : τ) : answer ≠ .written given := by
  rcases unread with ⟨error, rfl⟩ | ⟨v, -, rfl⟩ <;> nofun

theorem mem_versions_serve {v : Version Unit τ} (stored : v ∈ w.versions) :
    v ∈ (w.serve c later asking earlier token).versions := by
  rcases serve_cases c w later asking earlier token with
    ⟨unwritten, -⟩ | ⟨record, -, -, versions, -⟩
  · rwa [unwritten]
  · rw [versions]
    exact List.mem_cons_of_mem _ stored

theorem sound_served (sound : asking.Sound c.identity w.process w.versions)
    (pending : asking.outcome = none) (fresh : ∀ v ∈ w.versions, v.token ≠ token) :
    Asking.Sound c.identity w.process (w.serve c later asking earlier token).versions
      { asking with outcome := some (w.served c asking.call token).1 } := by
  have unheard : asking.heard = false := sound.unheard pending
  rcases serve_cases c w later asking earlier token with
    ⟨unwritten, unread⟩ | ⟨record, writes, written, versions, -⟩
  · have silent (given : τ) : (w.served c asking.call token).1 ≠ .written given :=
      unwritten_of_unread unread given
    rw [unwritten]
    refine ⟨sound.aged, sound.apt, nofun, sound.founded, ?_, ?_, ?_⟩
    · intro current outcome
      rcases unread with ⟨error, failed⟩ | ⟨v, stored, found⟩
      · cases failed.symm.trans (Option.some.inj outcome)
      · cases found.symm.trans (Option.some.inj outcome)
        exact ⟨v, stored, rfl⟩
    · exact fun given same => absurd (Option.some.inj same) (silent given)
    · exact fun v _ same => absurd (Option.some.inj same) (silent v.token)
  · have grown := sound.grow ⟨⟨record, token⟩, (), w.seat.now⟩ fresh
    rw [versions]
    refine ⟨sound.aged, sound.apt, nofun, grown.founded, ?_, ?_, ?_⟩
    · intro current outcome
      cases written.symm.trans (Option.some.inj outcome)
    · intro given same
      cases written.symm.trans (Option.some.inj same)
      exact ⟨_, List.mem_cons_self, rfl⟩
    · intro v among same
      have named : token = v.token := by
        injection written.symm.trans (Option.some.inj same)
      rcases List.mem_cons.mp among with rfl | before
      · exact writes
      · exact absurd named.symm (fresh v before)

theorem Sound.each_serve (sound : w.Sound c) (asked : w.askings = later ++ asking :: earlier)
    (pending : asking.outcome = none) (fresh : ∀ v ∈ w.versions, v.token ≠ token) :
    ∀ other ∈ (w.serve c later asking earlier token).askings,
      other.Sound c.identity w.process (w.serve c later asking earlier token).versions := by
  intro other among
  rcases mem_serve asked among with rfl | before
  · exact sound_served (sound.each asking (by rw [asked]; simp)) pending fresh
  · rcases serve_cases c w later asking earlier token with
      ⟨unwritten, -⟩ | ⟨record, -, -, versions, -⟩
    · rw [unwritten]
      exact sound.each other before
    · rw [versions]
      exact (sound.each other before).grow _ fresh

/-- Who wrote a version: a claim or a renewal of an earlier process, a renewal of this one that came
upon the version it was to replace, or a release. -/
inductive Writes (w next : Solo τ) (asking : Asking τ) : Prop
  | strays (stray : w.IsStray asking) (strayed : next.Strayed)
  | overtakes (own : w.IsOwnRenewal asking) (overtaken : next.Overtaken)
      (presents : ∃ newest ∈ w.versions.head?, ∃ record, asking.call = .update record newest.token)
  | vacates (vacated : next.Vacated)

theorem Sound.writes_serve (sound : w.Sound c) (asked : w.askings = later ++ asking :: earlier)
    (pending : asking.outcome = none) {record : LeaseRecord}
    (writes : asking.call.record? = some record)
    (written : (w.served c asking.call token).1 = .written token)
    (versions : (w.serve c later asking earlier token).versions =
      ⟨⟨record, token⟩, (), w.seat.now⟩ :: w.versions)
    (presents : (w.versions = [] ∧ asking.call = .create record) ∨
      ∃ newest older, w.versions = newest :: older ∧ asking.call = .update record newest.token) :
    w.Writes (w.serve c later asking earlier token) asking := by
  have known := sound.each asking (by rw [asked]; simp)
  have wrote : (w.serve c later asking earlier token).Wrote
      { asking with outcome := some (w.served c asking.call token).1 } := by
    refine ⟨by simp [serve], known.unheard pending, ⟨⟨record, token⟩, (), w.seat.now⟩, ?_,
      congrArg some written⟩
    rw [versions]
    rfl
  have apt := known.apt
  unfold Asking.Apt at apt
  split at apt
  next deadline claimed stamped stage =>
    have stray : w.IsStray asking := .inl (by simp [Asking.IsClaim, stage])
    exact .strays stray ⟨_, wrote, stray⟩
  next held renewed started stage =>
    obtain ⟨made, presented, update, -⟩ := apt
    have renewal : asking.IsRenewal := by simp [Asking.IsRenewal, stage]
    by_cases current : asking.process = w.process
    · refine .overtakes ⟨renewal, current⟩ ⟨_, wrote, renewal, current⟩ ?_
      rcases presents with ⟨-, creates⟩ | ⟨newest, older, stored, updates⟩
      · cases update.symm.trans creates
      · exact ⟨newest, by rw [stored]; rfl, record, updates⟩
    · exact .strays (.inr ⟨renewal, current⟩) ⟨_, wrote, .inr ⟨renewal, current⟩⟩
  next deadline stage =>
    obtain ⟨made, presented, update, vacant⟩ := apt
    rw [update] at writes
    cases writes
    exact .vacates ⟨_, by rw [versions]; rfl, vacant⟩
  · rw [apt] at writes
    cases writes

/-- What a call that takes effect writes rests. -/
theorem Sound.serve_writes (sound : w.Sound c) (asked : w.askings = later ++ asking :: earlier)
    (pending : asking.outcome = none) (fresh : ∀ v ∈ w.versions, v.token ≠ token) :
    ((w.serve c later asking earlier token).versions = w.versions ∧
        ∀ given, (w.served c asking.call token).1 ≠ .written given) ∨
      ((w.served c asking.call token).1 = .written token ∧
        Rests (w.serve c later asking earlier token).versions
          (w.serve c later asking earlier token).askings token ∧
        w.Writes (w.serve c later asking earlier token) asking) := by
  rcases serve_cases c w later asking earlier token with
    ⟨unwritten, unread⟩ | ⟨record, writes, written, versions, presents⟩
  · exact .inl ⟨unwritten, unwritten_of_unread unread⟩
  refine .inr ⟨written, ?_, sound.writes_serve asked pending writes written versions presents⟩
  rw [versions]
  refine rests_of_fresh ⟨⟨record, token⟩, (), w.seat.now⟩ ?_ fresh
  intro other among made presented update
  rcases mem_serve asked among with rfl | before
  · exact (sound.each asking (by rw [asked]; simp)).founded made presented update
  · exact (sound.each other before).founded made presented update

/-- A version that rests is replaced only by a call that may do so. -/
theorem restsBut_unwritten {but : Asking τ → Prop} {askings : List (Asking τ)} {stored : τ}
    (rests : RestsBut but w.versions askings stored) (among : asking ∈ askings)
    (pending : asking.outcome = none) :
    (w.serve c later asking earlier token).versions = w.versions ∨ but asking := by
  obtain ⟨newest, older, versions, same⟩ := rests.newest
  rcases serve_cases c w later asking earlier token with
    ⟨unwritten, -⟩ | ⟨record, -, -, -, ⟨empty, -⟩ | ⟨_, _, replaced, updates⟩⟩
  · exact .inl unwritten
  · cases versions.symm.trans empty
  · cases versions.symm.trans replaced
    exact .inr (rests.unasked asking among pending record (same ▸ updates))

theorem restsBut_serve {but : Asking τ → Prop} {stored : τ}
    (rests : RestsBut but w.versions w.askings stored)
    (asked : w.askings = later ++ asking :: earlier)
    (unwritten : (w.serve c later asking earlier token).versions = w.versions) :
    RestsBut but (w.serve c later asking earlier token).versions
      (w.serve c later asking earlier token).askings stored := by
  rw [asked] at rests
  rw [unwritten]
  exact rests.settle nofun

theorem rests_unwritten {askings : List (Asking τ)} {stored : τ}
    (rests : Rests w.versions askings stored) (among : asking ∈ askings)
    (pending : asking.outcome = none) :
    (w.serve c later asking earlier token).versions = w.versions :=
  (restsBut_unwritten rests among pending).resolve_right id

theorem rests_serve {stored : τ} (rests : Rests w.versions w.askings stored)
    (asked : w.askings = later ++ asking :: earlier) (pending : asking.outcome = none) :
    Rests (w.serve c later asking earlier token).versions
      (w.serve c later asking earlier token).askings stored :=
  restsBut_serve rests asked (rests_unwritten rests (by rw [asked]; simp) pending)

theorem Decided.serve {stored : τ} (decided : w.Decided stored)
    (asked : w.askings = later ++ asking :: earlier) (pending : asking.outcome = none) :
    (w.serve c later asking earlier token).Decided stored := by
  obtain ⟨rests, given⟩ := decided
  have unwritten : (w.serve c later asking earlier token).versions = w.versions :=
    rests_unwritten rests (by rw [asked]; simp) pending
  refine ⟨rests_serve rests asked pending, ?_⟩
  rcases given with ⟨newest, head, vacant⟩ | ⟨other, wrote, own⟩
  · exact .inl ⟨newest, unwritten ▸ head, vacant⟩
  · exact .inr ⟨other, wrote.serve asked pending unwritten, own⟩

theorem Spent.serve (spent : w.Spent) (sound : w.Sound c)
    (asked : w.askings = later ++ asking :: earlier) (pending : asking.outcome = none)
    (fresh : ∀ v ∈ w.versions, v.token ≠ token) :
    (w.serve c later asking earlier token).Spent := by
  rcases sound.serve_writes asked pending fresh with ⟨unwritten, -⟩ | ⟨-, rests, -⟩
  · intro other among unsettled own newest stored
    rcases mem_serve asked among with rfl | before
    · cases unsettled
    · exact spent other before unsettled own newest (unwritten ▸ stored)
  · exact spent_of_rests (rests.mono fun _ => False.elim)

theorem Clear.serve (clear : w.Clear c) (spent : w.Spent) (sound : w.Sound c)
    (asked : w.askings = later ++ asking :: earlier) (pending : asking.outcome = none)
    (fresh : ∀ v ∈ w.versions, v.token ≠ token) :
    (w.serve c later asking earlier token).Clear c := by
  rintro ⟨newest, stored, held⟩
  rcases sound.serve_writes asked pending fresh with ⟨unwritten, -⟩ | ⟨-, -, writes⟩
  · rw [unwritten] at stored
    rcases clear ⟨newest, stored, held⟩ with same | ⟨other, wrote, kind⟩
    · exact .inl (unwritten.trans same)
    · exact .inr ⟨other, wrote.serve asked pending unwritten, kind⟩
  · cases writes with
    | strays stray strayed => exact .inr strayed
    | overtakes own overtaken presents =>
        obtain ⟨replaced, head, record, updates⟩ := presents
        exact absurd updates (spent asking (by rw [asked]; simp) pending own replaced head record)
    | vacates vacated =>
        obtain ⟨vacant, head, given⟩ := vacated
        cases head.symm.trans stored
        exact absurd given held.1

theorem Sound.claims_serve (sound : w.Sound c) (claims : w.Claims)
    (asked : w.askings = later ++ asking :: earlier) (pending : asking.outcome = none)
    (fresh : ∀ v ∈ w.versions, v.token ≠ token) :
    (w.serve c later asking earlier token).Claims := by
  intro latest first given written
  cases later with
  | nil =>
      cases first
      rcases sound.serve_writes asked pending fresh with ⟨-, silent⟩ | ⟨answer, rests, -⟩
      · exact absurd (Option.some.inj written) (silent given)
      · cases answer.symm.trans (Option.some.inj written)
        exact rests
  | cons first later =>
      cases first
      exact rests_serve (claims latest (by rw [asked]; rfl) given written) asked pending

theorem Sound.renews_serve (sound : w.Sound c) {held : Held τ} (renews : w.Renews held)
    (asked : w.askings = later ++ asking :: earlier) (pending : asking.outcome = none)
    (fresh : ∀ v ∈ w.versions, v.token ≠ token) :
    (w.serve c later asking earlier token).Renews held := by
  obtain ⟨latest, before, record, askings, update, own, unheard, progress⟩ := renews
  cases later with
  | nil =>
      -- the renewal itself takes effect
      cases askings.symm.trans asked
      rcases progress with ⟨-, rests⟩ | ⟨given, written, -⟩
      · have answer := served_of_newest c token rests.newest update
        obtain ⟨v, stored, same⟩ := rests.stored
        rcases sound.serve_writes asked pending fresh with ⟨-, silent⟩ | ⟨-, rests, -⟩
        · exact absurd answer (silent token)
        · refine ⟨_, _, record, rfl, update, own, unheard,
            .inr ⟨token, congrArg some answer, ?_, rests⟩⟩
          exact same ▸ (fresh v stored).symm
      · cases pending.symm.trans written
  | cons first later =>
      cases askings.symm.trans asked
      refine ⟨latest, _, record, rfl, update, own, unheard, ?_⟩
      rcases progress with ⟨waiting, rests⟩ | ⟨given, written, new, rests⟩
      · rw [rests_unwritten rests (by simp) pending]
        exact .inl ⟨waiting, rests.settle nofun⟩
      · exact .inr ⟨given, written, new, rests_serve rests asked pending⟩

/-- What takes effect and is no stray call leaves the version as it is, or settles what is stored. -/
theorem Sound.decided_serve (sound : w.Sound c) (asked : w.askings = later ++ asking :: earlier)
    (pending : asking.outcome = none) (fresh : ∀ v ∈ w.versions, v.token ≠ token)
    (straight : ¬ w.IsStray asking) :
    ((w.serve c later asking earlier token).versions = w.versions ∧
        ∀ given, (w.served c asking.call token).1 ≠ .written given) ∨
      (w.serve c later asking earlier token).Decided token := by
  rcases sound.serve_writes asked pending fresh with unwritten | ⟨-, rests, writes⟩
  · exact .inl unwritten
  · refine .inr ⟨rests, ?_⟩
    cases writes with
    | strays stray strayed => exact absurd stray straight
    | overtakes own overtaken presents => exact .inr overtaken
    | vacates vacated => exact .inl vacated

/-- A version that only renewals of this process would replace stays, or the matter is settled. -/
theorem Sound.unwritten_or_decided (sound : w.Sound c) {but : Asking τ → Prop}
    {askings : List (Asking τ)} {stored : τ} (rests : RestsBut but w.versions askings stored)
    (own : but asking → w.IsOwnRenewal asking) (among : asking ∈ askings)
    (asked : w.askings = later ++ asking :: earlier) (pending : asking.outcome = none)
    (fresh : ∀ v ∈ w.versions, v.token ≠ token) :
    (w.serve c later asking earlier token).versions = w.versions ∨
      (w.serve c later asking earlier token).Decided token := by
  rcases restsBut_unwritten rests among pending with unwritten | may
  · exact .inl unwritten
  · exact (sound.decided_serve asked pending fresh (own may).not_isStray).imp_left And.left

theorem Sound.quits_serve (sound : w.Sound c) {held : Held τ} {reason : StopReason}
    (quits : w.Quits held reason) (asked : w.askings = later ++ asking :: earlier)
    (pending : asking.outcome = none) (fresh : ∀ v ∈ w.versions, v.token ≠ token) :
    (w.serve c later asking earlier token).Quits held reason := by
  obtain ⟨⟨v, stored, same⟩, progress⟩ := quits
  refine ⟨⟨v, mem_versions_serve stored, same⟩, ?_⟩
  rcases progress with rests | ⟨given, new, decided⟩
  · rcases sound.unwritten_or_decided rests And.right (by rw [asked]; simp) asked pending fresh with
      unwritten | decided
    · exact .inl (restsBut_serve rests asked unwritten)
    · exact .inr ⟨token, same ▸ (fresh v stored).symm, decided⟩
  · exact .inr ⟨given, new, decided.serve asked pending⟩

theorem Sound.releases_serve (sound : w.Sound c) (releases : w.Releases)
    (asked : w.askings = later ++ asking :: earlier) (pending : asking.outcome = none)
    (fresh : ∀ v ∈ w.versions, v.token ≠ token) :
    (w.serve c later asking earlier token).Releases := by
  obtain ⟨latest, before, deadline, record, presented, askings, stage, update, progress⟩ := releases
  cases later with
  | nil =>
      -- the release itself takes effect
      cases askings.symm.trans asked
      refine ⟨_, _, deadline, record, presented, rfl, stage, update, .inr ?_⟩
      rcases progress with ⟨-, rests⟩ | ⟨given, decided⟩
      · have answer := served_of_newest c token rests.newest update
        rcases sound.decided_serve asked pending fresh (not_isStray_of_releasing stage) with
          ⟨-, silent⟩ | decided
        · exact absurd answer (silent token)
        · exact ⟨token, decided⟩
      · exact ⟨given, decided.serve asked pending⟩
  | cons first later =>
      cases askings.symm.trans asked
      refine ⟨latest, _, deadline, record, presented, rfl, stage, update, ?_⟩
      rcases progress with ⟨waiting, rests⟩ | ⟨given, decided⟩
      · rcases sound.unwritten_or_decided rests id (by simp) asked pending fresh with
          unwritten | decided
        · rw [unwritten]
          exact .inl ⟨waiting, rests.settle nofun⟩
        · exact .inr ⟨token, decided⟩
      · exact .inr ⟨given, decided.serve asked pending⟩

theorem Sound.ended_serve (sound : w.Sound c) (spent : w.Spent) (ended : w.Ended c)
    (asked : w.askings = later ++ asking :: earlier) (pending : asking.outcome = none)
    (fresh : ∀ v ∈ w.versions, v.token ≠ token) :
    (w.serve c later asking earlier token).Ended c := by
  intro returned
  obtain ⟨released, sought⟩ := ended returned
  refine ⟨?_, fun unelected => (sought unelected).serve spent sound asked pending fresh⟩
  intro elected
  obtain ⟨given, decided⟩ := released elected
  exact ⟨given, decided.serve asked pending⟩

/-- What is known of the record at a stage outlasts a call that takes effect. -/
theorem Sound.stands_serve (sound : w.Sound c) (asked : w.askings = later ++ asking :: earlier)
    (pending : asking.outcome = none) (fresh : ∀ v ∈ w.versions, v.token ≠ token) {s : Stage τ}
    (stands : w.Stands c s) : (w.serve c later asking earlier token).Stands c s := by
  have seeks (known : w.Clear c ∧ w.Spent) : (w.serve c later asking earlier token).Clear c ∧
      (w.serve c later asking earlier token).Spent :=
    ⟨known.1.serve known.2 sound asked pending fresh, known.2.serve sound asked pending fresh⟩
  cases s with
  | idle =>
      exact ⟨stands.1.serve sound asked pending fresh,
        sound.ended_serve stands.1 stands.2 asked pending fresh⟩
  | reading deadline | waiting next => exact seeks stands
  | claiming deadline record stamped =>
      exact ⟨seeks stands.1, sound.claims_serve stands.2 asked pending fresh⟩
  | holding held next => exact rests_serve stands asked pending
  | renewing held record started => exact sound.renews_serve stands asked pending fresh
  | rereading held => exact stands
  | stopping held reason => exact sound.quits_serve stands asked pending fresh
  | releasing deadline => exact ⟨sound.releases_serve stands.1 asked pending fresh, stands.2⟩

theorem Sound.serve (sound : w.Sound c) (asked : w.askings = later ++ asking :: earlier)
    (pending : asking.outcome = none) (fresh : ∀ v ∈ w.versions, v.token ≠ token) :
    (w.serve c later asking earlier token).Sound c :=
  ⟨sound.each_serve asked pending fresh, sound.idle,
    sound.stands_serve asked pending fresh sound.stands⟩

end Serving

end Solo

end LeaseElection
