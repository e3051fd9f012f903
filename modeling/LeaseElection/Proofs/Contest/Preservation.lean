import LeaseElection.Proofs.Contest.Provenance
import LeaseElection.Proofs.Course.Instants

namespace LeaseElection

section Mono

variable {ι τ : Type} {R : Roster ι} {i : ι} {versions more : List (Version ι τ)}

theorem Held.Grounded.mono {identity : String} {held : Held τ}
    (grounded : held.Grounded versions identity) (kept : ∀ v ∈ versions, v ∈ more) :
    held.Grounded more identity := by
  obtain ⟨v, among, rest⟩ := grounded
  exact ⟨v, kept v among, rest⟩

theorem Sighting.Grounded.mono {offset : Nat} {s : Sighting τ}
    (grounded : s.Grounded versions offset) (kept : ∀ v ∈ versions, v ∈ more) :
    s.Grounded more offset := by
  obtain ⟨v, among, rest⟩ := grounded
  exact ⟨v, kept v among, rest⟩

theorem Request.Founded.mono {begun : Nat} {call : StoreCall τ}
    (founded : Founded R versions i begun call) (kept : ∀ v ∈ versions, v ∈ more) :
    Founded R more i begun call := by
  cases call with
  | get => trivial
  | create record => exact founded
  | update record token =>
      obtain ⟨v, among, rest⟩ := founded
      exact ⟨v, kept v among, rest⟩

theorem Request.Honest.mono {request : Request τ} (honest : request.Honest versions i)
    (kept : ∀ v ∈ versions, v ∈ more) : request.Honest more i := by
  unfold Honest at honest ⊢
  split
  next current outcome =>
    simp only [outcome] at honest
    obtain ⟨v, among, rest⟩ := honest
    exact ⟨v, kept v among, rest⟩
  next token outcome =>
    simp only [outcome] at honest
    obtain ⟨v, among, rest⟩ := honest
    exact ⟨v, kept v among, rest⟩
  · trivial

end Mono

theorem Version.Named.cons {versions : List (Version ι τ)} {v : Version ι τ}
    (named : Named versions) (fresh : ∀ other ∈ versions, other.token ≠ v.token) :
    Named (v :: versions) := by
  intro one among other amongst same
  rcases List.mem_cons.mp among with rfl | old
  · rcases List.mem_cons.mp amongst with rfl | older
    · rfl
    · exact absurd same.symm (fresh other older)
  · rcases List.mem_cons.mp amongst with rfl | older
    · exact absurd same (fresh one old)
    · exact named one old other older same

theorem Stage.Awaits.answered {offset begun : Nat} {call : StoreCall τ}
    {outcome other : Option (StoreAnswer τ)} {s : Stage τ}
    (awaits : s.Awaits offset ⟨call, begun, outcome⟩) :
    s.Awaits offset ⟨call, begun, other⟩ := by
  cases s <;> exact awaits

/-- A call that a turn begins is the one that the stage it enters is about. -/
theorem Elector.Passage.awaits {c : ElectionConfig} {m : Moment} {after : Elector τ}
    {s s' : Stage τ} {signal : Signal τ} {calls : List (StoreCall τ)}
    {outcomes : List ElectionOutcome} {offset now : Nat}
    (passage : Elector.Passage c m after s signal s' calls outcomes) (time : m.now = offset + now) :
    s'.Calls → (calls = [] ∧ s' = s) ∨
      ∃ call, calls = [call] ∧ s'.Awaits offset ⟨call, now, none⟩ := by
  cases passage with
  | stays unasked => exact fun _ => .inl ⟨rfl, rfl⟩
  | withdraws | rests | holds | concludes => exact False.elim
  | reads | rereads => exact fun _ => .inr ⟨_, rfl, trivial⟩
  | takes | creates | renews => exact fun _ => .inr ⟨_, rfl, rfl, time⟩
  | leaves why parting =>
      cases parting with
      | departs wanted => exact fun _ => .inr ⟨_, rfl, trivial⟩
      | stops | quits unwanted | loses => exact False.elim

namespace Contest

variable {ι τ : Type} [DecidableEq τ] {R : Roster ι} {w : Contest ι τ} {i : ι}

namespace Seated

theorem request_of_answer (seated : w.Seated R i) {answer : StoreAnswer τ}
    (expected : (w.seats i).elector.stage.Expects answer) (may : w.MayAnswer i answer)
    (success : ∀ error, answer ≠ .failed error) :
    ∃ request ∈ w.requests i, request.outcome = some answer ∧
      (w.seats i).elector.stage.Awaits (R.offset i) request := by
  rcases may with ⟨error, failed⟩ | ⟨request, earlier, latest, outcome⟩
  · exact absurd failed (success error)
  · have calls : (w.seats i).elector.stage.Calls := by
      generalize (w.seats i).elector.stage = s at expected
      cases s <;> cases answer <;> simp_all [Stage.Expects, Stage.Calls]
    obtain ⟨head, rest, same, awaits⟩ := seated.awaits calls
    obtain ⟨rfl, rfl⟩ := List.cons.inj (latest.symm.trans same)
    exact ⟨request, by simp [latest], outcome, awaits⟩

theorem found (seated : w.Seated R i) {current : Versioned τ}
    (expected : (w.seats i).elector.stage.Expects (.found current))
    (may : w.MayAnswer i (.found current)) : ∃ v ∈ w.versions, v.toVersioned = current := by
  obtain ⟨request, among, outcome, -⟩ := seated.request_of_answer expected may (by simp)
  have honest := seated.honest request among
  rwa [Request.Honest, outcome] at honest

theorem written (seated : w.Seated R i) {token : τ}
    (expected : (w.seats i).elector.stage.Expects (.written token))
    (may : w.MayAnswer i (.written token)) :
    ∃ request ∈ w.requests i, (w.seats i).elector.stage.Awaits (R.offset i) request ∧
      ∃ v ∈ w.versions, v.token = token ∧ v.writer = i ∧ v.begun = request.begun ∧
        request.call.record? = some v.record := by
  obtain ⟨request, among, outcome, awaits⟩ := seated.request_of_answer expected may (by simp)
  have honest := seated.honest request among
  rw [Request.Honest, outcome] at honest
  exact ⟨request, among, awaits, honest⟩

section Turn

variable {signal : Signal τ} {held : Held τ}

theorem kept (seated : w.Seated R i)
    (expected : ∀ answer, signal = .answered answer → (w.seats i).elector.stage.Expects answer)
    (may : ∀ answer, signal = .answered answer → w.MayAnswer i answer)
    (kept : Elector.Keeps (R.config i).identity (w.seats i).elector.stage signal held) :
    held.Grounded w.versions (R.config i).identity := by
  have fits := seated.reachable.orderly.fits
  have written (token : τ) (answer : signal = .answered (.written token)) :=
    seated.written (expected _ answer) (may _ answer)
  have found (current : Versioned τ) (answer : signal = .answered (.found current)) :=
    seated.found (expected _ answer) (may _ answer)
  have before := seated.held held
  generalize (w.seats i).elector.stage = s at kept fits written found before
  cases kept with
  | claimed =>
      obtain ⟨request, -, ⟨writes, -⟩, v, among, token, -, -, record⟩ := written _ rfl
      have same := Option.some.inj (record.symm.trans writes)
      exact ⟨v, among, token, same, same ▸ fits.2.2⟩
  | renewed =>
      obtain ⟨request, -, ⟨writes, -⟩, v, among, token, -, -, record⟩ := written _ rfl
      have same := Option.some.inj (record.symm.trans writes)
      exact ⟨v, among, token, same, same ▸ fits.2.2⟩
  | refreshed own =>
      obtain ⟨v, among, rfl⟩ := found _ rfl
      exact ⟨v, among, rfl, rfl, own.2⟩
  | holding | unrefreshed | stopping => exact before rfl
  | unrenewed unwritten => exact before rfl

/-- What was sighted last is one of the versions, and the sighting does not predate it. -/
theorem noted (sound : w.Sound R) {m : Moment} (now : m.now = R.offset i + w.now)
    {v : Version ι τ} (among : v ∈ w.versions) :
    R.offset i + v.begun ≤
      (Elector.noted m (w.seats i).elector.sighting v.toVersioned).since ∧
    (Elector.noted m (w.seats i).elector.sighting v.toVersioned).token = v.token := by
  have dated := sound.dated v among
  have fresh : R.offset i + v.begun ≤ m.now := by omega
  have sighted := (sound.seated i).sighted
  unfold Elector.noted
  split
  next s seen =>
    obtain ⟨other, amongst, token, since⟩ := sighted s seen
    split
    next same =>
      have one : other = v := sound.named other amongst v among (token.trans same)
      subst one
      exact ⟨since, same⟩
    · exact ⟨fresh, rfl⟩
  · exact ⟨fresh, rfl⟩

theorem sighted_after (sound : w.Sound R) {m : Moment} (now : m.now = R.offset i + w.now)
    (expected : ∀ answer, signal = .answered answer → (w.seats i).elector.stage.Expects answer)
    (may : ∀ answer, signal = .answered answer → w.MayAnswer i answer) {s : Sighting τ}
    (sighting : Elector.sightingAfter m (w.seats i).elector signal = some s) :
    s.Grounded w.versions (R.offset i) := by
  have seated := sound.seated i
  unfold Elector.sightingAfter at sighting
  split at sighting
  · split at sighting
    · cases sighting
    · exact seated.sighted s sighting
  next current =>
    split at sighting
    · obtain ⟨v, among, rfl⟩ := seated.found (expected _ rfl) (may _ rfl)
      have noted := Seated.noted sound now among
      cases sighting
      exact ⟨v, among, noted.2.symm, noted.1⟩
    · exact seated.sighted s sighting
  · exact seated.sighted s sighting

theorem claimable_of (sound : w.Sound R) {m : Moment} (now : m.now = R.offset i + w.now)
    (wall : m.wall = R.wall i w.now) {v : Version ι τ} (among : v ∈ w.versions) {after : Elector τ}
    (identity : after.status.identity = (R.config i).identity)
    (sighting : after.sighting =
      some (Elector.noted m (w.seats i).elector.sighting v.toVersioned))
    (claimable : Elector.IsClaimable m after v.record) :
    v.record.IsVacant ∨ v.record.holder = (R.config i).identity ∨
      v.record.IsExpired (R.wall i w.now) ∨
      v.begun + v.record.leaseSeconds.toNat * Duration.nanosPerSecond < w.now := by
  rcases claimable with vacant | own | expired | stale
  · exact .inl vacant
  · exact .inr (.inl (own.2.trans identity))
  · rw [wall] at expired
    exact .inr (.inr (.inl expired))
  · have since := (Seated.noted sound now among).1
    rw [Elector.IsStale, sighting] at stale
    dsimp only at stale
    exact .inr (.inr (.inr (by omega)))

theorem founded_after (sound : w.Sound R) {m : Moment} (now : m.now = R.offset i + w.now)
    (wall : m.wall = R.wall i w.now)
    (expected : ∀ answer, signal = .answered answer → (w.seats i).elector.stage.Expects answer)
    (may : ∀ answer, signal = .answered answer → w.MayAnswer i answer) :
    ∀ call ∈ ((w.seats i).elector.step (R.config i) m signal).calls,
      Request.Founded R w.versions i w.now call := by
  have seated := sound.seated i
  have identity := seated.reachable.orderly.identity
  have passage := Elector.step_passes (m := m) identity expected
  have frame : ((w.seats i).elector.step (R.config i) m signal).elector.sighting =
        Elector.sightingAfter m (w.seats i).elector signal ∧
      ((w.seats i).elector.step (R.config i) m signal).elector.status.identity =
        (w.seats i).elector.status.identity := Elector.step_frame signal
  obtain ⟨sighting, same⟩ := frame
  have kept (held : Held τ)
      (keeps : Elector.Keeps (R.config i).identity (w.seats i).elector.stage signal held) :=
    seated.kept expected may keeps
  generalize (w.seats i).elector.step (R.config i) m signal = t at passage sighting same ⊢
  generalize t.elector.stage = s' at passage
  generalize t.calls = calls at passage ⊢
  generalize t.outcomes = outcomes at passage
  generalize stage : (w.seats i).elector.stage = s at passage kept
  cases passage with
  | stays | withdraws | rests | holds | concludes => simp
  | reads | rereads =>
      intro call among
      rw [List.mem_singleton.mp among]
      trivial
  | takes free claimable =>
      intro call asked
      rw [List.mem_singleton.mp asked]
      obtain ⟨v, among, rfl⟩ := seated.found (expected _ rfl) (may _ rfl)
      rw [Elector.sightingAfter, stage] at sighting
      have claimable := Seated.claimable_of sound now wall among (same.trans identity) sighting
        claimable
      exact ⟨v, among, rfl, sound.dated v among, .takesOver claimable (by rw [wall])⟩
  | creates =>
      intro call asked
      rw [List.mem_singleton.mp asked, wall]
      exact rfl
  | renews free early =>
      intro call asked
      rw [List.mem_singleton.mp asked]
      obtain ⟨v, among, token, record, own⟩ := kept _ .holding
      exact ⟨v, among, token, sound.dated v among, .renews own (by rw [wall, record])⟩
  | leaves why parting =>
      cases parting with
      | stops | quits unwanted | loses => simp
      | departs wanted =>
          intro call asked
          rw [List.mem_singleton.mp asked]
          obtain ⟨v, among, token, record, own⟩ := kept _ why.kept
          exact ⟨v, among, token, sound.dated v among, .releases own (by rw [wall, record])⟩

theorem held_after (seated : w.Seated R i) {m : Moment}
    (expected : ∀ answer, signal = .answered answer → (w.seats i).elector.stage.Expects answer)
    (may : ∀ answer, signal = .answered answer → w.MayAnswer i answer)
    (holds : ((w.seats i).elector.step (R.config i) m signal).elector.stage.Holds held) :
    held.Grounded w.versions (R.config i).identity := by
  have identity := seated.reachable.orderly.identity
  have passage := Elector.step_passes (m := m) identity expected
  have kept (held : Held τ)
      (keeps : Elector.Keeps (R.config i).identity (w.seats i).elector.stage signal held) :=
    seated.kept expected may keeps
  have before := seated.held held
  generalize (w.seats i).elector.step (R.config i) m signal = t at passage holds
  generalize t.elector.stage = s' at passage holds
  generalize t.calls = calls at passage
  generalize t.outcomes = outcomes at passage
  generalize (w.seats i).elector.stage = s at passage kept before
  cases passage with
  | stays unasked => exact before holds
  | withdraws | reads | takes | creates | rests | concludes => exact holds.elim
  | holds expected keeps free early => exact holds ▸ kept _ keeps
  | renews free early => exact holds ▸ kept _ .holding
  | rereads => exact holds ▸ kept _ (.unrenewed (by simp))
  | leaves why parting =>
      cases parting with
      | stops => exact holds ▸ kept _ why.kept
      | departs wanted | quits unwanted | loses => exact holds.elim

/-- What a participant is known by survives a turn. -/
theorem turned (sound : w.Sound R) {next : Contest ι τ} {m : Moment}
    (now : m.now = R.offset i + w.now) (wall : m.wall = R.wall i w.now)
    (expected : ∀ answer, signal = .answered answer → (w.seats i).elector.stage.Expects answer)
    (may : ∀ answer, signal = .answered answer → w.MayAnswer i answer)
    (versions : next.versions = w.versions) (time : next.now = w.now)
    (reachable : Course.Reachable (R.config i) R.pace (next.seats i))
    (clock : (next.seats i).now = (w.seats i).now)
    (elector : (next.seats i).elector =
      ((w.seats i).elector.step (R.config i) m signal).elector)
    (requests : next.requests i =
      (((w.seats i).elector.step (R.config i) m signal).calls.map
        fun call => ⟨call, w.now, none⟩).reverse ++ w.requests i) : next.Seated R i := by
  have seated := sound.seated i
  have identity := seated.reachable.orderly.identity
  have passage := Elector.step_passes (m := m) identity expected
  have asked {request : Request τ} (among : request ∈ next.requests i) :
      (∃ call ∈ ((w.seats i).elector.step (R.config i) m signal).calls,
        request = ⟨call, w.now, none⟩) ∨ request ∈ w.requests i := by
    rw [requests, List.mem_append, List.mem_reverse, List.mem_map] at among
    exact among.imp_left fun ⟨call, begun, same⟩ => ⟨call, begun, same.symm⟩
  refine
    { reachable
      clock := by rw [clock, time, seated.clock]
      dated := ?dated
      founded := ?founded
      honest := ?honest
      awaits := ?awaits
      sighted := ?sighted
      held := ?held }
  case dated =>
    intro request among
    rw [time]
    rcases asked among with ⟨call, -, rfl⟩ | before
    · exact Nat.le_refl _
    · exact seated.dated request before
  case founded =>
    intro request among
    rw [versions]
    rcases asked among with ⟨call, begun, rfl⟩ | before
    · exact Seated.founded_after sound now wall expected may call begun
    · exact seated.founded request before
  case honest =>
    intro request among
    rw [versions]
    rcases asked among with ⟨call, -, rfl⟩ | before
    · trivial
    · exact seated.honest request before
  case awaits =>
    rw [elector, requests]
    intro calls
    rcases passage.awaits now calls with ⟨none, same⟩ | ⟨call, one, awaits⟩
    · rw [none, same]
      rw [same] at calls
      exact seated.awaits calls
    · rw [one]
      exact ⟨_, _, rfl, awaits⟩
  case sighted =>
    intro s sighting
    rw [versions]
    rw [elector, (Elector.step_frame signal).1] at sighting
    exact Seated.sighted_after sound now expected may sighting
  case held =>
    intro held holds
    rw [versions]
    rw [elector] at holds
    exact seated.held_after expected may holds

end Turn

end Seated

theorem Seated.spared (seated : w.Seated R i) {next : Contest ι τ} (time : w.now = next.now)
    (kept : ∀ v ∈ w.versions, v ∈ next.versions) (seat : next.seats i = w.seats i)
    (requests : next.requests i = w.requests i) : next.Seated R i where
  reachable := seat ▸ seated.reachable
  clock := by rw [seat, seated.clock, time]
  dated := by
    rw [requests, ← time]
    exact seated.dated
  founded := by
    rw [requests]
    exact fun request among => (seated.founded request among).mono kept
  honest := by
    rw [requests]
    exact fun request among => (seated.honest request among).mono kept
  awaits := by
    rw [seat, requests]
    exact seated.awaits
  sighted := by
    rw [seat]
    exact fun s sighting => (seated.sighted s sighting).mono kept
  held := by
    rw [seat]
    exact fun held holds => (seated.held held holds).mono kept

theorem Sound.pass (sound : w.Sound R) {time : Nat}
    (may : ∀ i, (w.seats i).MayPass (R.config i) R.pace time) : (w.pass time).Sound R where
  named := sound.named
  dated v among := Nat.le_trans (sound.dated v among) (Nat.le_add_right _ _)
  chained := sound.chained
  seated := by
    intro i
    have seated := sound.seated i
    have clock : (w.seats i).now + time = R.offset i + (w.now + time) := by
      rw [seated.clock, Nat.add_assoc]
    exact
      { reachable := seated.reachable.waits time (may i)
        clock
        dated := fun request among =>
          Nat.le_trans (seated.dated request among) (Nat.le_add_right _ _)
        founded := seated.founded
        honest := seated.honest
        awaits := seated.awaits
        sighted := seated.sighted
        held := seated.held }

/-- What is written when a call takes effect is made from the newest version. -/
theorem Sound.follows (sound : w.Sound R) {later earlier : List (Request τ)} {call : StoreCall τ}
    {begun : Nat} (token : τ)
    (asked : w.requests i = later ++ ⟨call, begun, none⟩ :: earlier) {record : LeaseRecord}
    (writes : (w.versions = [] ∧ call = .create record) ∨
      ∃ newest older, w.versions = newest :: older ∧ call = .update record newest.token) :
    (⟨⟨record, token⟩, i, begun⟩ : Version ι τ).Follows R w.versions := by
  have founded := (sound.seated i).founded ⟨call, begun, none⟩ (by simp [asked])
  rcases writes with ⟨none, rfl⟩ | ⟨newest, older, some, rfl⟩
  · rw [none]
    exact founded
  · obtain ⟨v, among, same, before, derives⟩ := founded
    have newest_among : newest ∈ w.versions := by simp [some]
    -- the token names one version, so the call was made from the one that it replaces
    have one : v = newest := sound.named v among newest newest_among same
    subst one
    rw [some]
    exact ⟨before, derives⟩

theorem initial_sound : (initial R : Contest ι τ).Sound R := by
  have empty : ∀ v : Version ι τ, v ∉ (initial R : Contest ι τ).versions :=
    fun v among => List.not_mem_nil among
  have unasked : ∀ i, ∀ request, request ∉ (initial R : Contest ι τ).requests i :=
    fun i request among => List.not_mem_nil among
  refine ⟨fun v among => absurd among (empty v), fun v among => absurd among (empty v), trivial, ?_⟩
  intro i
  exact
    { reachable := .initial _
      clock := rfl
      dated := fun request among => absurd among (unasked i request)
      founded := fun request among => absurd among (unasked i request)
      honest := fun request among => absurd among (unasked i request)
      awaits := False.elim
      sighted := fun s seen => nomatch seen
      held := fun held => False.elim }

variable [DecidableEq ι]

theorem Sound.moved (sound : w.Sound R) {move : Move τ} (allowed : (w.seats i).Allows move)
    (honest : ∀ answer, move = .hear (.answered answer) → w.MayAnswer i answer) :
    (w.act R i move).Seated R i := by
  have seated := sound.seated i
  have seat := w.act_seat R i move
  have clock := congrArg Course.now seat
  have elector := congrArg Course.elector seat
  have requests := w.act_requests R i move
  have reachable : Course.Reachable (R.config i) R.pace ((w.act R i move).seats i) := by
    rw [seat]
    exact seated.reachable.does _ _ allowed
  cases move with
  | start cancelled =>
      exact Seated.turned (m := ((w.seats i).opened cancelled).moment (R.wall i w.now)) sound
        seated.clock rfl (by simp) (by simp) rfl rfl reachable clock elector requests
  | hear signal =>
      exact Seated.turned (m := (w.seats i).moment (R.wall i w.now)) sound seated.clock rfl
        allowed.expected (fun answer same => honest answer (same ▸ rfl)) rfl rfl reachable clock
        elector requests
  | cancel =>
      exact
        { reachable
          clock := clock.trans seated.clock
          dated := requests ▸ seated.dated
          founded := requests ▸ seated.founded
          honest := requests ▸ seated.honest
          awaits := by
            rw [elector, requests]
            exact seated.awaits
          sighted := by
            rw [elector]
            exact seated.sighted
          held := by
            rw [elector]
            exact seated.held }
  | restart =>
      exact
        { reachable
          clock := clock.trans seated.clock
          dated := requests ▸ seated.dated
          founded := requests ▸ seated.founded
          honest := requests ▸ seated.honest
          awaits := by
            rw [elector]
            exact False.elim
          sighted := by
            rw [elector]
            exact nofun
          held := by
            rw [elector]
            exact fun held => False.elim }

theorem Sound.act (sound : w.Sound R) {move : Move τ} (allowed : (w.seats i).Allows move)
    (honest : ∀ answer, move = .hear (.answered answer) → w.MayAnswer i answer) :
    (w.act R i move).Sound R where
  named := sound.named
  dated := sound.dated
  chained := sound.chained
  seated := by
    intro j
    by_cases same : j = i
    · subst same
      exact sound.moved allowed honest
    · exact (sound.seated j).spared rfl (fun _ among => among)
        (w.act_seat_of_ne R i move same) (w.act_requests_of_ne R i move same)

section Serving

variable {later earlier : List (Request τ)} {call : StoreCall τ} {begun : Nat} {token : τ}

theorem Sound.served (sound : w.Sound R)
    (asked : w.requests i = later ++ ⟨call, begun, none⟩ :: earlier)
    (kept : ∀ v ∈ w.versions, v ∈ (w.serve R i later call begun earlier token).versions)
    (honest : (⟨call, begun, some (Version.serve w.versions (R.config i).key i begun token
      call).1⟩ : Request τ).Honest (w.serve R i later call begun earlier token).versions i) :
    (w.serve R i later call begun earlier token).Seated R i := by
  have seated := sound.seated i
  have requests := w.serve_requests R i later earlier call begun token
  have old {request : Request τ}
      (among : request ∈ (w.serve R i later call begun earlier token).requests i) :
      request = ⟨call, begun, some (Version.serve w.versions (R.config i).key i begun token
        call).1⟩ ∨ request ∈ w.requests i := by
    rw [requests, List.mem_append, List.mem_cons] at among
    rw [asked, List.mem_append, List.mem_cons]
    rcases among with before | same | after
    · exact .inr (.inl before)
    · exact .inl same
    · exact .inr (.inr (.inr after))
  have before : ⟨call, begun, none⟩ ∈ w.requests i := by simp [asked]
  have dated : begun ≤ w.now := seated.dated _ before
  exact
    { reachable := seated.reachable
      clock := seated.clock
      dated := by
        intro request among
        rcases old among with rfl | among
        · exact dated
        · exact seated.dated request among
      founded := by
        intro request among
        rcases old among with rfl | among
        · exact (seated.founded _ before).mono kept
        · exact (seated.founded request among).mono kept
      honest := by
        intro request among
        rcases old among with rfl | among
        · exact honest
        · exact (seated.honest request among).mono kept
      awaits := by
        intro calls
        obtain ⟨request, rest, head, awaits⟩ := seated.awaits calls
        rw [asked] at head
        rw [requests]
        cases later with
        | nil =>
            obtain ⟨rfl, rfl⟩ := List.cons.inj head
            exact ⟨_, _, rfl, awaits.answered⟩
        | cons first later =>
            obtain ⟨rfl, rfl⟩ := List.cons.inj head
            exact ⟨_, _, rfl, awaits⟩
      sighted := fun s sighting => (seated.sighted s sighting).mono kept
      held := fun held holds => (seated.held held holds).mono kept }

theorem Sound.serve (sound : w.Sound R)
    (asked : w.requests i = later ++ ⟨call, begun, none⟩ :: earlier)
    (fresh : ∀ v ∈ w.versions, v.token ≠ token) :
    (w.serve R i later call begun earlier token).Sound R := by
  have seated := sound.seated i
  have dated := seated.dated ⟨call, begun, none⟩ (by simp [asked])
  have others (kept : ∀ v ∈ w.versions,
      v ∈ (w.serve R i later call begun earlier token).versions) {j : ι} (other : j ≠ i) :
      (w.serve R i later call begun earlier token).Seated R j :=
    (sound.seated j).spared rfl kept rfl
      (w.serve_requests_of_ne R i later earlier call begun token other)
  rcases Version.serve_cases w.versions (R.config i).key i begun token call with
    ⟨same, answer⟩ | ⟨record, writes, written, grown, how⟩
  · have versions : (w.serve R i later call begun earlier token).versions = w.versions := same
    have kept : ∀ v ∈ w.versions,
        v ∈ (w.serve R i later call begun earlier token).versions := by simp [versions]
    refine ⟨versions ▸ sound.named, versions ▸ sound.dated, versions ▸ sound.chained, ?_⟩
    intro j
    by_cases mine : j = i
    · subst mine
      refine sound.served asked kept ?_
      rcases answer with ⟨error, failed⟩ | ⟨v, among, found⟩
      · simp [Request.Honest, failed]
      · rw [Request.Honest, found]
        exact ⟨v, kept v among, rfl⟩
    · exact others kept mine
  · have versions : (w.serve R i later call begun earlier token).versions =
        ⟨⟨record, token⟩, i, begun⟩ :: w.versions := grown
    have kept : ∀ v ∈ w.versions,
        v ∈ (w.serve R i later call begun earlier token).versions := by
      intro v among
      rw [versions]
      exact List.mem_cons_of_mem _ among
    refine ⟨?_, ?_, ?_, ?_⟩
    · rw [versions]
      exact sound.named.cons fresh
    · rw [versions]
      intro v among
      rcases List.mem_cons.mp among with rfl | before
      · exact dated
      · exact sound.dated v before
    · rw [versions]
      exact ⟨sound.follows token asked how, sound.chained⟩
    · intro j
      by_cases mine : j = i
      · subst mine
        refine sound.served asked kept ?_
        rw [Request.Honest, written, versions]
        exact ⟨_, List.mem_cons_self, rfl, rfl, rfl, writes⟩
      · exact others kept mine

end Serving

theorem Reachable.sound (reachable : Reachable R w) : w.Sound R := by
  induction reachable with
  | initial => exact initial_sound
  | step reachable step ih =>
      cases step with
      | act i move allowed honest => exact ih.act allowed honest
      | serve i later call begun earlier token asked fresh => exact ih.serve asked fresh
      | pass time may => exact ih.pass may

end Contest

end LeaseElection
