import LeaseElection.Proofs.Course.RenewDeadline
import LeaseElection.Proofs.Solo.Record

namespace LeaseElection

namespace Solo

variable {c : ElectionConfig} {w : Solo τ}

section

variable {move : Move τ} {signal : Signal τ}

theorem acknowledged_of_unasked (unasked : ∀ answer, move ≠ .hear (.answered answer)) :
    w.acknowledged move = w.askings := by
  unfold acknowledged
  split
  next answer => exact absurd rfl (unasked answer)
  · rfl

theorem Honest.acknowledged_cases (honest : w.Honest move) {asking : Asking τ}
    (among : asking ∈ w.acknowledged move) : asking ∈ w.askings ∨
      ∃ before ∈ w.askings, before.outcome ≠ none ∧ asking = { before with heard := true } := by
  unfold acknowledged at among
  split at among
  next answer =>
    obtain ⟨latest, earlier, askings, outcome⟩ := honest answer rfl
    rw [askings] at among ⊢
    rcases among with ⟨⟩ | ⟨_, after⟩
    · exact .inr ⟨latest, List.mem_cons_self, by simp [outcome], rfl⟩
    · exact .inl (List.mem_cons_of_mem _ after)
  · exact .inl among

/-- What is heard is no news of a call that is yet to take effect. -/
theorem Honest.mem_of_pending (honest : w.Honest move) {asking : Asking τ}
    (among : asking ∈ w.acknowledged move) (pending : asking.outcome = none) :
    asking ∈ w.askings := by
  rcases honest.acknowledged_cases among with known | ⟨before, -, settled, rfl⟩
  · exact known
  · exact absurd pending settled

theorem Honest.rests (honest : w.Honest move) {but : Asking τ → Prop}
    {versions : List (Version Unit τ)} {token : τ}
    (rests : RestsBut but versions w.askings token) :
    RestsBut but versions (w.acknowledged move) token :=
  ⟨rests.newest, fun asking among pending =>
    rests.unasked asking (honest.mem_of_pending among pending) pending⟩

theorem Asking.Sound.hear {identity : String} {process : Nat} {versions : List (Version Unit τ)}
    {asking : Asking τ} (sound : asking.Sound identity process versions)
    (settled : asking.outcome ≠ none) :
    Asking.Sound identity process versions { asking with heard := true } :=
  ⟨sound.aged, sound.apt, fun pending => absurd pending settled, sound.founded, sound.found,
    sound.stored, sound.wrote⟩

/-- Only the record, the calls, and how the run ended matter. -/
theorem Stands.congr {next : Solo τ} {s : Stage τ} (stands : w.Stands c s)
    (versions : next.versions = w.versions) (askings : next.askings = w.askings)
    (before : next.before = w.before) (process : next.process = w.process)
    (returned : next.Returned → w.Returned) (elected : next.Elected c ↔ w.Elected c) :
    next.Stands c s := by
  obtain ⟨seat, _, _, _, _⟩ := w
  obtain ⟨seat', _, _, _, _⟩ := next
  cases versions
  cases askings
  cases before
  cases process
  cases s with
  | releasing deadline => exact ⟨stands.1, elected.mpr stands.2⟩
  | idle =>
      refine ⟨stands.1, fun ends => ?_⟩
      obtain ⟨released, sought⟩ := stands.2 (returned ends)
      exact ⟨fun had => released (elected.mp had), fun unelected => sought (mt elected.mpr unelected)⟩
  | _ => exact stands

end

/-- How a participant that has heard of something differs from before: it is at a stage, has begun
calls, and may have ended its run. -/
structure Hears (c : ElectionConfig) (w : Solo τ) (m : Moment) (signal : Signal τ) (next : Solo τ)
    (s : Stage τ) (calls : List (StoreCall τ)) (outcomes : List ElectionOutcome) : Prop where
  versions : next.versions = w.versions
  before : next.before = w.before
  process : next.process = w.process
  askings : next.askings = (calls.map fun call => ⟨call, s, w.process, none, false⟩).reverse ++
    w.acknowledged (.hear signal)
  returned : next.Returned ↔ .cancelled ∈ outcomes ∨ w.Returned
  elected : next.Elected c ↔ Trace.secured c.identity (.told m signal :: w.seat.trace) ≠ none

theorem hear_hears [DecidableEq τ] (c : ElectionConfig) (w : Solo τ) (wall : Instant)
    (signal : Signal τ) :
    w.Hears c (w.seat.moment wall) signal (w.act c wall (.hear signal))
      (w.seat.hear c wall signal).elector.stage (w.seat.turn c wall signal).calls
      (w.seat.turn c wall signal).outcomes where
  versions := rfl
  before := rfl
  process := rfl
  askings := rfl
  returned := by
    change _ ∈ (w.seat.turn c wall signal).trace _ ↔ _
    rw [Turn.trace_eq]
    rw [List.mem_append, List.mem_reverse, Turn.mem_outcomes]
    simp [Returned]
  elected := by
    change Trace.secured c.identity ((w.seat.turn c wall signal).trace _) ≠ none ↔ _
    rw [Turn.trace_eq, ← List.map_reverse, Trace.secured_done]

namespace Hears

variable {m : Moment} {signal : Signal τ} {next : Solo τ} {s : Stage τ} {calls : List (StoreCall τ)}
  {outcomes : List ElectionOutcome}

/-- A call that is yet to take effect is begun now, or was so before. -/
theorem pending_cases (hears : w.Hears c m signal next s calls outcomes)
    (honest : w.Honest (.hear signal)) {asking : Asking τ} (among : asking ∈ next.askings)
    (pending : asking.outcome = none) :
    (∃ call ∈ calls, asking = ⟨call, s, w.process, none, false⟩) ∨ asking ∈ w.askings := by
  rw [hears.askings] at among
  rcases List.mem_append.mp among with new | known
  · simp only [List.mem_reverse, List.mem_map] at new
    obtain ⟨call, called, rfl⟩ := new
    exact .inl ⟨call, called, rfl⟩
  · exact .inr (honest.mem_of_pending known pending)

/-- A call stays unheard of, unless it is the one that was answered. -/
theorem wrote (hears : w.Hears c m signal next s calls outcomes)
    (honest : w.Honest (.hear signal)) {asking : Asking τ} (wrote : w.Wrote asking)
    (apart : ∀ token, signal = .answered (.written token) → asking ∉ w.askings.head?) :
    next.Wrote asking := by
  obtain ⟨among, unheard, newest, stored, written⟩ := wrote
  refine ⟨?_, unheard, newest, hears.versions ▸ stored, written⟩
  rw [hears.askings]
  refine List.mem_append_right _ ?_
  by_cases asked : ∃ answer, signal = .answered answer
  · obtain ⟨answer, rfl⟩ := asked
    obtain ⟨latest, earlier, askings, outcome⟩ := honest answer rfl
    simp only [acknowledged, askings]
    rw [askings] at among apart
    rcases among with ⟨⟩ | ⟨_, after⟩
    · cases outcome.symm.trans written
      exact absurd rfl (apart _ rfl)
    · exact List.mem_cons_of_mem _ after
  · rw [acknowledged_of_unasked (by simpa using asked)]
    exact among

theorem clear (hears : w.Hears c m signal next s calls outcomes)
    (honest : w.Honest (.hear signal)) (clear : w.Clear c)
    (unwritten : ∀ token, signal ≠ .answered (.written token)) : next.Clear c := by
  rintro ⟨newest, stored, held⟩
  rw [hears.versions] at stored
  rcases clear ⟨newest, stored, held⟩ with same | ⟨asking, wrote, stray⟩
  · exact .inl (by rw [hears.versions, hears.before, same])
  · refine .inr ⟨asking, hears.wrote honest wrote fun token heard => ?_, ?_⟩
    · exact absurd heard (unwritten token)
    · rwa [IsStray, hears.process]

theorem spent (hears : w.Hears c m signal next s calls outcomes)
    (honest : w.Honest (.hear signal)) (spent : w.Spent)
    (unrenewed : ∀ held record started, s ≠ .renewing held record started) : next.Spent := by
  intro asking among pending own newest stored
  rw [hears.versions] at stored
  rw [IsOwnRenewal, hears.process] at own
  rcases hears.pending_cases honest among pending with ⟨call, -, rfl⟩ | known
  · have renewal := own.1
    unfold Asking.IsRenewal at renewal
    split at renewal
    next stage => exact (unrenewed _ _ _ stage).elim
    · exact renewal.elim
  · exact spent asking known pending own newest stored

theorem rests (hears : w.Hears c m signal next s [] outcomes) (honest : w.Honest (.hear signal))
    {but : Asking τ → Prop} {token : τ} (rests : RestsBut but w.versions w.askings token) :
    RestsBut but next.versions next.askings token := by
  rw [hears.versions, hears.askings]
  exact honest.rests rests

/-- What is settled stays so, whatever call is begun that presents another token. -/
theorem decided (hears : w.Hears c m signal next s calls outcomes)
    (honest : w.Honest (.hear signal)) {token : τ} (decided : w.Decided token)
    (apart : ∀ written, signal = .answered (.written written) →
      ∀ asking ∈ w.askings.head?, ¬ w.IsOwnRenewal asking)
    (others : ∀ record, .update record token ∉ calls) : next.Decided token := by
  obtain ⟨rests, given⟩ := decided
  refine ⟨⟨by rw [hears.versions]; exact rests.newest, ?_⟩, ?_⟩
  · intro asking among pending record presents
    rcases hears.pending_cases honest among pending with ⟨call, called, rfl⟩ | known
    · cases presents
      exact absurd called (others record)
    · exact rests.unasked asking known pending record presents
  · rcases given with ⟨newest, stored, vacant⟩ | ⟨asking, wrote, own⟩
    · exact .inl ⟨newest, hears.versions ▸ stored, vacant⟩
    · refine .inr ⟨asking, hears.wrote honest wrote fun written heard latest => ?_, ?_⟩
      · exact apart written heard asking latest own
      · rwa [IsOwnRenewal, hears.process]

end Hears

/-- A participant that goes on with a claim upon an answer knows the token of the stored version. -/
theorem Stands.rests_of_kept {s : Stage τ} {answer : StoreAnswer τ} {held : Held τ}
    (stands : w.Stands c s) (honest : w.Honest (.hear (.answered answer)))
    (expected : s.Expects answer)
    (kept : Elector.Keeps c.identity s (.answered answer) held) :
    Rests w.versions w.askings held.token := by
  obtain ⟨latest, earlier, askings, outcome⟩ := honest answer rfl
  cases kept with
  | claimed => exact stands.2 latest (by rw [askings]; rfl) _ outcome
  | holding | stopping => exact expected.elim
  | renewed =>
      obtain ⟨_, _, record, same, update, own, unheard, progress⟩ := stands
      cases askings.symm.trans same
      rcases progress with ⟨pending, -⟩ | ⟨given, written, new, rests⟩
      · cases pending.symm.trans outcome
      · cases written.symm.trans outcome
        exact rests
  | unrenewed unwritten =>
      obtain ⟨_, _, record, same, update, own, unheard, progress⟩ := stands
      cases askings.symm.trans same
      rcases progress with ⟨pending, -⟩ | ⟨given, written, new, rests⟩
      · cases pending.symm.trans outcome
      · cases written.symm.trans outcome
        exact absurd rfl (unwritten given)
  | refreshed | unrefreshed => exact stands.elim

/-- A renewal that is given up has replaced the version, or is yet to do so. -/
theorem Renews.quits {held : Held τ} (renews : w.Renews held) :
    RestsBut w.IsOwnRenewal w.versions w.askings held.token ∨
      ∃ token, token ≠ held.token ∧ w.Decided token := by
  obtain ⟨latest, earlier, record, askings, update, own, unheard, progress⟩ := renews
  rcases progress with ⟨pending, rests⟩ | ⟨given, written, new, rests⟩
  · refine .inl ⟨rests.newest, ?_⟩
    rw [askings]
    rintro asking (⟨⟩ | ⟨_, among⟩) waiting record presents
    · exact own
    · exact (rests.unasked asking among waiting record presents).elim
  · obtain ⟨newest, older, versions, same⟩ := rests.newest
    refine .inr ⟨given, new, rests, .inr ⟨latest, ⟨?_, unheard, newest, ?_, ?_⟩, own⟩⟩
    · rw [askings]
      exact List.mem_cons_self
    · rw [versions]
      rfl
    · rw [written, same]

section Hearing

variable {m : Moment} {signal : Signal τ} {s : Stage τ} {held : Held τ} {reason : StopReason}

/-- The version of a claim that is left rests but for a renewal given up on cancellation, or such a
renewal has replaced it and nothing was answered now. -/
def Leaves (w : Solo τ) (signal : Signal τ) (reason : StopReason) (token : τ) : Prop :=
  RestsBut (fun asking => reason = .cancelled ∧ w.IsOwnRenewal asking) w.versions w.askings token ∨
    (∃ given, given ≠ token ∧ w.Decided given) ∧ ∀ answer, signal ≠ .answered answer

theorem Stands.leaves (stands : w.Stands c s) (honest : w.Honest (.hear signal))
    (expected : ∀ answer, signal = .answered answer → s.Expects answer)
    (answered : s.Calls → signal ≠ .timer) (why : Elector.Leaves c m s signal held reason) :
    w.Leaves signal reason held.token := by
  have relied {answer : StoreAnswer τ} (heard : signal = .answered answer)
      (kept : Elector.Keeps c.identity s signal held) :
      RestsBut (fun asking => reason = .cancelled ∧ w.IsOwnRenewal asking) w.versions w.askings
        held.token := by
    subst heard
    exact (stands.rests_of_kept honest (expected answer rfl) kept).mono fun _ => False.elim
  cases why with
  | cancelled kept heeds cancelled =>
      by_cases asked : ∃ answer, signal = .answered answer
      · obtain ⟨answer, heard⟩ := asked
        exact .inl (relied heard kept)
      have unasked (answer : StoreAnswer τ) : signal ≠ .answered answer :=
        fun heard => asked ⟨answer, heard⟩
      cases kept with
      | claimed | renewed | refreshed => exact absurd rfl (unasked _)
      | holding => exact .inl (RestsBut.mono stands fun _ => False.elim)
      | unrenewed unwritten =>
          rcases Renews.quits stands with rests | decided
          · exact .inl (rests.mono fun _ own => ⟨rfl, own⟩)
          · exact .inr ⟨decided, unasked⟩
      | unrefreshed => exact stands.elim
      | stopping => exact heeds.elim
  | late kept heeds late heard =>
      rcases heard with rfl | ⟨answer, -, heard⟩
      · cases kept with
        | holding => exact .inl (RestsBut.mono stands fun _ => False.elim)
        | unrenewed unwritten => exact absurd rfl (answered trivial)
        | unrefreshed => exact stands.elim
        | stopping => exact heeds.elim
      · exact .inl (relied heard kept)
  | supplanted foreign => exact stands.elim
  | stopping => exact stands.2.imp_right fun decided => ⟨decided, by simp⟩

/-- The version that a participant leaves its claim to is one that was stored. -/
theorem Sound.stored_of_kept (sound : w.Sound c) (honest : w.Honest (.hear signal))
    (kept : Elector.Keeps c.identity w.seat.elector.stage signal held) :
    ∃ v ∈ w.versions, v.token = held.token := by
  have stands := sound.stands
  generalize w.seat.elector.stage = s at kept stands
  cases kept with
  | claimed =>
      obtain ⟨latest, earlier, askings, outcome⟩ := honest _ rfl
      exact (stands.2 latest (by rw [askings]; rfl) _ outcome).stored
  | holding => exact stands.stored
  | renewed =>
      obtain ⟨latest, earlier, askings, outcome⟩ := honest _ rfl
      exact (sound.each latest (by rw [askings]; exact List.mem_cons_self)).stored _ outcome
  | unrenewed =>
      obtain ⟨latest, earlier, record, askings, update, -⟩ := stands
      exact (sound.each latest (by rw [askings]; exact List.mem_cons_self)).founded _ _ update
  | refreshed | unrefreshed => exact stands.elim
  | stopping => exact stands.1

variable {next : Solo τ} {calls : List (StoreCall τ)} {outcomes : List ElectionOutcome}

/-- Where a participant goes that leaves its claim. -/
theorem Hears.parts (hears : w.Hears c m signal next s calls outcomes)
    (parting : Elector.Parting c m held reason s calls outcomes)
    (releases : c.releaseOnCancel = true) (honest : w.Honest (.hear signal)) (led : ¬ w.Returned)
    (elected : next.Elected c) (stored : ∃ v ∈ w.versions, v.token = held.token)
    (leaves : w.Leaves signal reason held.token) : next.Stands c s := by
  cases parting with
  | stops =>
      refine ⟨hears.versions ▸ stored, ?_⟩
      rcases leaves with rests | ⟨⟨token, other, decided⟩, unasked⟩
      · simp only [IsOwnRenewal, hears.process]
        exact .inl (hears.rests honest rests)
      · exact .inr ⟨token, other, hears.decided honest decided
          (fun _ heard => absurd heard (unasked _)) (by simp)⟩
  | departs wanted =>
      refine ⟨⟨_, _, _, _, _, hears.askings, rfl, rfl, ?_⟩, elected⟩
      rcases leaves with rests | ⟨⟨token, other, decided⟩, unasked⟩
      · refine .inl ⟨rfl, ?_⟩
        rw [hears.versions]
        exact (honest.rests rests).mono fun asking own => ⟨own.2.1, own.2.2.trans hears.process.symm⟩
      · exact .inr ⟨token, hears.decided honest decided
          (fun _ heard => absurd heard (unasked _)) (by simp [other])⟩
  | quits unwanted => cases releases.symm.trans unwanted
  | loses =>
      have spent : w.Spent := by
        rcases leaves with rests | ⟨⟨token, -, rests, -⟩, -⟩
        · exact spent_of_rests (rests.mono fun _ given => by cases given.1)
        · exact spent_of_rests (rests.mono fun _ => False.elim)
      refine ⟨hears.spent honest spent (by simp), fun returned => ?_⟩
      rcases hears.returned.mp returned with lost | before
      · simp at lost
      · exact absurd before led

/-- A participant goes on seeking the lease. -/
theorem Hears.seeks (hears : w.Hears c m signal next s calls outcomes)
    (honest : w.Honest (.hear signal)) (known : w.Clear c ∧ w.Spent)
    (unwritten : ∀ token, signal ≠ .answered (.written token))
    (unrenewed : ∀ held record started, s ≠ .renewing held record started) :
    next.Clear c ∧ next.Spent :=
  ⟨hears.clear honest known.1 unwritten, hears.spent honest known.2 unrenewed⟩

theorem claims_of_pending {asking : Asking τ} {earlier : List (Asking τ)}
    (askings : w.askings = asking :: earlier) (pending : asking.outcome = none) : w.Claims := by
  intro latest first token written
  rw [askings] at first
  cases first
  cases pending.symm.trans written

theorem Stands.seeks (stands : w.Stands c s) (seeks : s.Seeks) : w.Clear c ∧ w.Spent := by
  cases s with
  | reading deadline | waiting next => exact stands
  | claiming deadline record stamped => exact stands.1
  | _ => exact seeks.elim

/-- What a participant may be told of. -/
structure Tells (c : ElectionConfig) (w : Solo τ) (signal : Signal τ) : Prop where
  expected : ∀ answer, signal = .answered answer → w.seat.elector.stage.Expects answer
  answered : w.seat.elector.stage.Calls → signal ≠ .timer
  honest : w.Honest (.hear signal)
  begun : signal = .start → w.versions = w.before ∧ ¬ w.Returned ∧
    Trace.secured c.identity w.seat.trace = none

/-- A participant that seeks the lease was not elected. -/
theorem Sound.sought (sound : w.Sound c) (orderly : w.seat.Orderly c) (tells : w.Tells c signal)
    (seeks : Elector.Attempts w.seat.elector.stage signal ∨ w.seat.elector.stage.Seeks) :
    (w.Clear c ∧ w.Spent) ∧ Trace.secured c.identity w.seat.trace = none := by
  have stands := sound.stands
  have fits := orderly.fits
  have seeking (seeks : w.seat.elector.stage.Seeks) :
      (w.Clear c ∧ w.Spent) ∧ Trace.secured c.identity w.seat.trace = none := by
    rw [← account_secured]
    refine ⟨sound.stands.seeks seeks, ?_⟩
    generalize w.seat.elector.stage = s at seeks fits
    cases s with
    | reading deadline | waiting next => exact fits.secured
    | claiming deadline record stamped => exact fits.1.secured
    | _ => exact seeks.elim
  rcases seeks with attempts | seeks
  · generalize stage : w.seat.elector.stage = s at attempts
    cases attempts with
    | first =>
        rw [stage] at stands
        obtain ⟨same, -, unelected⟩ := tells.begun rfl
        exact ⟨⟨fun _ => .inl same, stands.1⟩, unelected⟩
    | again => exact seeking (by rw [stage]; trivial)
  · exact seeking seeks

/-- What a participant knows of its record that has heard of something. -/
theorem Sound.hear_stands (sound : w.Sound c) (orderly : w.seat.Orderly c)
    (tells : w.Tells c signal) (releases : c.releaseOnCancel = true) {wall : Instant}
    {after : Elector τ} {s' : Stage τ}
    (hears : w.Hears c (w.seat.moment wall) signal next s' calls outcomes)
    (passage : Elector.Passage c (w.seat.moment wall) after w.seat.elector.stage signal s' calls
      outcomes) : next.Stands c s' := by
  have ⟨expected, answered, honest, _⟩ := tells
  have stands := sound.stands
  generalize stage : w.seat.elector.stage = s at passage stands expected answered
  have sought (seeks : Elector.Attempts s signal ∨ s.Seeks) :
      (w.Clear c ∧ w.Spent) ∧ Trace.secured c.identity w.seat.trace = none :=
    sound.sought orderly tells (stage ▸ seeks)
  cases passage with
  | stays unasked =>
      refine stands.congr hears.versions ?_ hears.before hears.process ?_ ?_
      · rw [hears.askings, acknowledged_of_unasked (by simpa using unasked)]
        rfl
      · simpa using hears.returned.mp
      · rw [hears.elected, Trace.secured_told_of_unwritten fun _ => unasked _]
        rfl
  | withdraws seeks unwritten cancelled =>
      obtain ⟨known, unelected⟩ := sought seeks
      obtain ⟨clear, spent⟩ := hears.seeks honest known unwritten (by simp)
      refine ⟨spent, fun _ => ⟨fun elected => ?_, fun _ => clear⟩⟩
      rw [hears.elected, Trace.secured_told_of_unwritten unwritten] at elected
      exact absurd unelected elected
  | reads attempts free =>
      refine hears.seeks honest (sought (.inl attempts)).1 ?_ (by simp)
      cases attempts <;> simp
  | takes free claimable =>
      exact ⟨hears.seeks honest (sought (.inr trivial)).1 (by simp) (by simp),
        claims_of_pending hears.askings rfl⟩
  | creates free missing =>
      exact ⟨hears.seeks honest (sought (.inr trivial)).1 (by simp) (by simp),
        claims_of_pending hears.askings rfl⟩
  | rests seeks unwritten free =>
      exact hears.seeks honest (sought (.inr seeks)).1 unwritten (by simp)
  | holds expects kept free early =>
      exact hears.rests honest (stands.rests_of_kept honest expects kept)
  | renews free early =>
      refine ⟨_, _, _, hears.askings, rfl, ⟨trivial, hears.process.symm⟩, rfl, .inl ⟨rfl, ?_⟩⟩
      rw [hears.versions]
      exact honest.rests stands
  | rereads free conflict =>
      obtain ⟨latest, earlier, record, askings, update, own, unheard, progress⟩ := stands
      obtain ⟨_, _, same, outcome⟩ := honest _ rfl
      cases askings.symm.trans same
      rcases progress with ⟨pending, -⟩ | ⟨given, written, -⟩
      · cases pending.symm.trans outcome
      · cases written.symm.trans outcome
  | leaves why parting =>
      have busy : s ≠ .idle := by
        rintro rfl
        cases why.kept
      refine hears.parts parting releases honest (fun returned => busy ?_) ?_ ?_ ?_
      · exact stage.symm.trans (sound.idle returned)
      · rw [hears.elected]
        exact orderly.earned_of_kept wall (stage ▸ expected) (stage ▸ why.kept)
      · exact sound.stored_of_kept honest (stage ▸ why.kept)
      · exact stands.leaves honest expected answered why
  | concludes heard =>
      rcases heard with rfl | ⟨answer, rfl⟩
      · exact absurd rfl (answered trivial)
      obtain ⟨⟨latest, earlier, deadline, record, token, askings, released, update, progress⟩,
        elected⟩ := stands
      obtain ⟨_, _, same, outcome⟩ := honest answer rfl
      cases askings.symm.trans same
      rcases progress with ⟨pending, -⟩ | ⟨given, decided⟩
      · cases pending.symm.trans outcome
      have apart (asking : Asking τ) (first : asking ∈ w.askings.head?) : ¬ w.IsOwnRenewal asking := by
        rw [askings] at first
        cases first
        simp [IsOwnRenewal, Asking.IsRenewal, released]
      have decided := hears.decided honest decided (fun _ _ => apart) (by simp)
      refine ⟨spent_of_rests (decided.1.mono fun _ => False.elim), fun _ => ⟨fun _ => ⟨given, decided⟩, ?_⟩⟩
      intro unelected
      refine absurd (hears.elected.mpr ?_) unelected
      exact Trace.secured_told _ _ elected

/-- A call is begun with a token of a version that was stored. -/
theorem Sound.called (sound : w.Sound c) (orderly : w.seat.Orderly c) (tells : w.Tells c signal)
    {wall : Instant} {after : Elector τ} {s' : Stage τ}
    (passage : Elector.Passage c (w.seat.moment wall) after w.seat.elector.stage signal s' calls
      outcomes) {call : StoreCall τ} (among : call ∈ calls) :
    Asking.Sound c.identity w.process w.versions ⟨call, s', w.process, none, false⟩ := by
  suffices known : Asking.Apt c.identity (⟨call, s', w.process, none, false⟩ : Asking τ) ∧
      ∀ record token, call = .update record token → ∃ v ∈ w.versions, v.token = token from
    ⟨Nat.le_refl _, known.1, fun _ => rfl, known.2, by simp, by simp, by simp⟩
  have stored {held : Held τ}
      (kept : Elector.Keeps c.identity w.seat.elector.stage signal held) :
      ∃ v ∈ w.versions, v.token = held.token := sound.stored_of_kept tells.honest kept
  have fits := orderly.fits
  generalize w.seat.elector.stage = s at passage stored fits
  cases passage with
  | stays | withdraws | rests | holds | concludes => cases among
  | reads | rereads =>
      cases List.mem_singleton.mp among
      exact ⟨rfl, by simp⟩
  | creates =>
      cases List.mem_singleton.mp among
      exact ⟨trivial, by simp⟩
  | takes free claimable =>
      cases List.mem_singleton.mp among
      obtain ⟨latest, earlier, askings, outcome⟩ := tells.honest _ rfl
      refine ⟨trivial, ?_⟩
      rintro _ _ ⟨⟩
      exact (sound.each latest (by rw [askings]; exact List.mem_cons_self)).found _ outcome
  | renews free early =>
      cases List.mem_singleton.mp among
      refine ⟨⟨_, _, rfl, (LeaseRecord.renewed_holder ..).trans fits.own⟩, ?_⟩
      rintro _ _ ⟨⟩
      exact stored .holding
  | leaves why parting =>
      cases parting with
      | stops | quits | loses => cases among
      | departs wanted =>
          cases List.mem_singleton.mp among
          refine ⟨⟨_, _, rfl, rfl⟩, ?_⟩
          rintro _ _ ⟨⟩
          exact stored why.kept

theorem Sound.hear [DecidableEq τ] (sound : w.Sound c) (orderly : w.seat.Orderly c)
    (tells : w.Tells c signal) (releases : c.releaseOnCancel = true) (wall : Instant) :
    (w.act c wall (.hear signal)).Sound c := by
  have hears := hear_hears c w wall signal
  have passage : Elector.Passage c (w.seat.moment wall) _ w.seat.elector.stage signal
      (w.seat.hear c wall signal).elector.stage (w.seat.turn c wall signal).calls
      (w.seat.turn c wall signal).outcomes := Elector.step_passes orderly.identity tells.expected
  refine ⟨?_, ?_, sound.hear_stands orderly tells releases hears passage⟩
  · intro asking among
    rw [hears.askings, List.mem_append] at among
    rcases among with new | known
    · simp only [List.mem_reverse, List.mem_map] at new
      obtain ⟨call, called, rfl⟩ := new
      exact sound.called orderly tells passage called
    · rcases tells.honest.acknowledged_cases known with before | ⟨before, among, settled, rfl⟩
      · exact sound.each asking before
      · exact Asking.Sound.hear (sound.each before among) settled
  · intro returned
    rcases hears.returned.mp returned with now | before
    · exact passage.idle_of_returns now
    · have idle := sound.idle before
      rw [idle] at passage
      exact passage.idle fun begun => (tells.begun begun).2.1 before

theorem Sound.opened (sound : w.Sound c) (idle : w.seat.elector.stage = .idle)
    (cancelled : Bool) : (w.opened cancelled).Sound c := by
  have stands := sound.stands
  rw [idle] at stands
  have unreturned : ¬ (w.opened cancelled).Returned := by
    cases cancelled <;> simp [Returned, Solo.opened, Course.opened]
  refine ⟨sound.each, fun returned => absurd returned unreturned, ?_⟩
  change Stands c _ w.seat.elector.stage
  rw [idle]
  exact ⟨stands.1, fun returned => absurd returned unreturned⟩

variable [DecidableEq τ] {move : Move τ}

theorem Sound.start (sound : w.Sound c) (orderly : w.seat.Orderly c)
    (releases : c.releaseOnCancel = true) (wall : Instant) (cancelled : Bool)
    (idle : w.seat.elector.stage = .idle) : (w.act c wall (.start cancelled)).Sound c := by
  have tells : (w.opened cancelled).Tells c .start := by
    refine ⟨by simp, by simp, by simp [Honest], fun _ => ⟨rfl, ?_, ?_⟩⟩
    · cases cancelled <;> simp [Returned, Solo.opened, Course.opened]
    · cases cancelled <;> rfl
  exact (sound.opened idle cancelled).hear (orderly.opened idle cancelled) tells releases wall

theorem Sound.act (sound : w.Sound c) (orderly : w.seat.Orderly c)
    (releases : c.releaseOnCancel = true) (wall : Instant) (allowed : w.seat.Allows move)
    (answered : w.seat.elector.stage.Calls → move ≠ .hear .timer) (honest : w.Honest move) :
    (w.act c wall move).Sound c := by
  cases move with
  | start cancelled => exact sound.start orderly releases wall cancelled allowed
  | hear signal =>
      refine sound.hear orderly ⟨allowed.expected, ?_, honest, ?_⟩ releases wall
      · rintro calls rfl
        exact answered calls rfl
      · rintro rfl
        exact allowed.elim
  | cancel =>
      have returned (returned : (w.act c wall .cancel).Returned) : w.Returned := by
        simpa [Returned, Solo.act, Course.after] using returned
      exact ⟨sound.each, fun returns => sound.idle (returned returns),
        sound.stands.congr rfl rfl rfl rfl returned Iff.rfl⟩
  | restart =>
      refine ⟨fun asking among => ?_, nofun, ?_, nofun⟩
      · have known := sound.each asking among
        exact { known with aged := Nat.le_succ_of_le known.aged }
      · -- whatever renewal is yet to take effect was begun by a process that has ended
        intro asking among _ own
        have aged := (sound.each asking among).aged
        have current : asking.process = w.process + 1 := own.2
        omega

theorem Reachable.seat (reachable : Reachable c w) : Course.Reachable c ⟨false, false⟩ w.seat := by
  induction reachable with
  | initial now versions => exact .initial now
  | step _ step ih =>
      cases step with
      | act wall move allowed => exact ih.does wall move allowed
      | serve => exact ih
      | pass time => exact ih.waits time ⟨by simp, by simp⟩

theorem Reachable.sound (reachable : Reachable c w) (releases : c.releaseOnCancel = true) :
    w.Sound c := by
  induction reachable with
  | initial now versions =>
      have unreturned : ¬ (Solo.initial c now versions : Solo τ).Returned := List.not_mem_nil
      exact ⟨by simp [Solo.initial], fun returned => absurd returned unreturned,
        by simp [Solo.initial, Spent],
        fun returned => absurd returned unreturned⟩
  | @step w next reachable step ih =>
      cases step with
      | act wall move allowed answered honest =>
          exact ih.act reachable.seat.orderly releases wall allowed answered honest
      | serve later asking earlier token asked pending fresh => exact ih.serve asked pending fresh
      | pass time =>
          exact ⟨ih.each, ih.idle, ih.stands.congr rfl rfl rfl rfl id Iff.rfl⟩

end Hearing

end Solo

end LeaseElection
