import LeaseElection.Proofs.Contest.History

namespace LeaseElection

/-- How far wall clocks may be apart. -/
structure Roster.ClocksAgree (R : Roster ι) : Prop where
  /-- The clock of a system counts no leap seconds. -/
  ordinary : ∀ i now, ¬ (R.wall i now).InLeapSecond
  /-- A claimant's clock is ahead of the time that a holder stamped, and what has passed since, by
  at most the holder's recorded lease less its renew deadline. -/
  ahead : ∀ holder claimant, holder ≠ claimant → ∀ stamped now, stamped ≤ now →
    (R.wall claimant now).nanoseconds ≤
      (R.wall holder stamped).nanoseconds + (now - stamped : Nat) +
        ((LeaseRecord.recordedSeconds (R.config holder).lease).toNat * Duration.nanosPerSecond -
          (R.config holder).renewDeadline.nanoseconds)

/-- No lease is longer than a record can tell. -/
def Roster.LeasesFit (R : Roster ι) : Prop :=
  ∀ i, (R.config i).lease.nanoseconds ≤ (UInt64.size - 1) * Duration.nanosPerSecond

theorem Roster.renewDeadline_lt {R : Roster ι} (fit : R.LeasesFit) (i : ι) :
    (R.config i).renewDeadline.nanoseconds <
      (LeaseRecord.recordedSeconds (R.config i).lease).toNat * Duration.nanosPerSecond := by
  obtain ⟨raw, surroundings, resolved⟩ := R.resolved i
  exact Nat.lt_of_lt_of_le (ElectionConfig.resolve_ok resolved).2
    (LeaseRecord.recordedSeconds_le _ (fit i))

/-- Nobody may write over a version of somebody else within the renew deadline of its write. -/
theorem Derives.barred {R : Roster ι} (clocks : R.ClocksAgree) (fit : R.LeasesFit) {i : ι}
    {begun : Nat} {v : Version ι τ} {record : LeaseRecord} (derives : Derives R i begun v record)
    (genuine : v.Genuine R) (occupied : ¬ v.record.IsVacant) (other : v.writer ≠ i)
    (order : v.begun ≤ begun) :
    v.begun + (R.config v.writer).renewDeadline.nanoseconds < begun := by
  obtain ⟨stamp, vacant | ⟨holder, seconds⟩⟩ := genuine
  · exact absurd vacant occupied
  have foreign : v.record.holder ≠ (R.config i).identity := fun own =>
    other (R.distinct _ _ (holder.symm.trans own))
  have longer := Roster.renewDeadline_lt fit v.writer
  rw [← seconds] at longer
  cases derives with
  | takesOver claimable made =>
      -- neither the time that the version carries nor how long it has been seen allows it yet
      rcases claimable with vacant | own | expired | stale
      · exact absurd vacant occupied
      · exact absurd own foreign
      · have elapsed := expired.elapsed (stamp ▸ clocks.ordinary _ _) (clocks.ordinary _ _)
        have ahead := clocks.ahead v.writer i other v.begun begun order
        rw [← seconds] at ahead
        rw [stamp] at elapsed
        omega
      · omega
  | renews own made => exact absurd own foreign
  | releases own made => exact absurd own foreign

/-- The local time of a write that a participant relies on, or does once it hears of it. -/
def Stage.Relies (requests : List (Request τ)) (begun : Nat) : Stage τ → Prop
  | .claiming _ _ stamped => begun = stamped ∧ Acknowledged requests
  | .holding held _ | .rereading held | .stopping held _ => begun = held.stamped
  | .renewing held _ started =>
      begun = held.stamped ∨ (begun = started ∧ Acknowledged requests)
  | _ => False
where
  /-- The latest call was a write that has taken effect. -/
  Acknowledged (requests : List (Request τ)) : Prop :=
    ∃ request earlier token, requests = request :: earlier ∧
      request.outcome = some (.written token)

namespace Contest

variable {ι τ : Type} (R : Roster ι)

/-- The newest version is a participant's own, no older than a local time, and none of its calls
under way gives it up. -/
def Reigns (w : Contest ι τ) (i : ι) (begun : Nat) : Prop :=
  ∃ newest older, w.versions = newest :: older ∧ newest.writer = i ∧
    ¬ newest.record.IsVacant ∧ begun ≤ R.offset i + newest.begun ∧
    ∀ request ∈ w.requests i, request.outcome = none →
      ∀ record, request.call = .update record newest.token → ¬ record.IsVacant

/-- Whoever relies on a write within the renew deadline reigns. -/
def Sovereign (w : Contest ι τ) : Prop :=
  ∀ i begun, (w.seats i).elector.stage.Relies (w.requests i) begun →
    (w.seats i).now ≤ begun + (R.config i).renewDeadline.nanoseconds → w.Reigns R i begun

variable {R} {w : Contest ι τ} {i : ι}

/-- A participant relies on the claim that it keeps, before it hears of it. -/
theorem relies_of_kept {signal : Signal τ} {held : Held τ} {identity : String}
    (may : ∀ answer, signal = .answered answer → w.MayAnswer i answer)
    (kept : Elector.Keeps identity (w.seats i).elector.stage signal held) :
    (w.seats i).elector.stage.Relies (w.requests i) held.stamped := by
  have acknowledged (token : τ) (answer : signal = .answered (.written token)) :
      Stage.Relies.Acknowledged (w.requests i) := by
    rcases may _ answer with ⟨error, failed⟩ | ⟨request, earlier, latest, outcome⟩
    · cases failed
    · exact ⟨request, earlier, token, latest, outcome⟩
  generalize (w.seats i).elector.stage = s at kept ⊢
  cases kept with
  | claimed => exact ⟨rfl, acknowledged _ rfl⟩
  | renewed => exact .inr ⟨rfl, acknowledged _ rfl⟩
  | unrenewed unwritten => exact .inl rfl
  | holding | refreshed own | unrefreshed | stopping => rfl

theorem relies_before {c : ElectionConfig} {m : Moment} {after : Elector τ} {s s' : Stage τ}
    {signal : Signal τ} {calls : List (StoreCall τ)} {outcomes : List ElectionOutcome}
    {requests : List (Request τ)} {now begun : Nat}
    (passage : Elector.Passage c m after s signal s' calls outcomes)
    (kept : ∀ held, Elector.Keeps c.identity s signal held → s.Relies requests held.stamped)
    (relies : s'.Relies ((calls.map fun call => ⟨call, now, none⟩).reverse ++ requests) begun) :
    s.Relies requests begun := by
  have unacknowledged {call : StoreCall τ} :
      ¬ Stage.Relies.Acknowledged (⟨call, now, none⟩ :: requests) := by
    rintro ⟨request, earlier, token, same, outcome⟩
    cases same
    cases outcome
  cases passage with
  | stays unasked => exact relies
  | withdraws | reads | rests | concludes => exact relies.elim
  | takes | creates => exact absurd relies.2 unacknowledged
  | holds expected keeps free early =>
      rw [relies]
      exact kept _ keeps
  | renews free early =>
      rcases relies with same | acknowledged
      · rw [same]
        exact kept _ .holding
      · exact absurd acknowledged.2 unacknowledged
  | rereads => exact .inl relies
  | leaves why parting =>
      cases parting with
      | stops =>
          rw [relies]
          exact kept _ why.kept
      | departs wanted | quits unwanted | loses => exact relies.elim

theorem retains {c : ElectionConfig} {m : Moment} {after : Elector τ} {s s' : Stage τ}
    {signal : Signal τ} {calls : List (StoreCall τ)} {outcomes : List ElectionOutcome}
    {requests : List (Request τ)} {begun : Nat}
    (passage : Elector.Passage c m after s signal s' calls outcomes)
    (named : c.identity ≠ "")
    (own : ∀ held next, s = .holding held next → held.record.holder = c.identity)
    (relies : s'.Relies requests begun) {record : LeaseRecord} {token : τ}
    (asked : .update record token ∈ calls) : ¬ record.IsVacant := by
  cases passage with
  | stays | withdraws | rests | holds | concludes => cases asked
  | reads => exact relies.elim
  | rereads | creates => cases List.mem_singleton.mp asked
  | leaves why parting =>
      cases parting with
      | stops | quits unwanted | loses => cases asked
      | departs wanted => exact relies.elim
  | takes free claimable =>
      cases List.mem_singleton.mp asked
      exact fun vacant => named ((LeaseRecord.takenOverBy_holder ..).symm.trans vacant)
  | renews free early =>
      cases List.mem_singleton.mp asked
      intro vacant
      have holder := (LeaseRecord.renewed_holder ..).symm.trans vacant
      exact named ((own _ _ rfl).symm.trans holder)

/-- A call that takes effect makes a participant rely on it only if it is the latest, and a claim or
a renewal. -/
theorem relies_served {s : Stage τ} {later earlier : List (Request τ)} {call : StoreCall τ}
    {asked begun : Nat} {answer : StoreAnswer τ}
    (relies : s.Relies (later ++ ⟨call, asked, some answer⟩ :: earlier) begun) :
    s.Relies (later ++ ⟨call, asked, none⟩ :: earlier) begun ∨
      (later = [] ∧ (∃ token, answer = .written token) ∧
        ((∃ deadline record, s = .claiming deadline record begun) ∨
          ∃ held record, s = .renewing held record begun)) := by
  have before (acknowledged :
      Stage.Relies.Acknowledged (later ++ ⟨call, asked, some answer⟩ :: earlier)) :
      Stage.Relies.Acknowledged (later ++ ⟨call, asked, none⟩ :: earlier) ∨
        (later = [] ∧ ∃ token, answer = .written token) := by
    obtain ⟨request, rest, token, same, outcome⟩ := acknowledged
    cases later with
    | nil =>
        cases same
        exact .inr ⟨rfl, token, Option.some.inj outcome⟩
    | cons first later =>
        cases same
        exact .inl ⟨_, _, token, rfl, outcome⟩
  cases s with
  | claiming deadline record stamped =>
      obtain ⟨rfl, acknowledged⟩ := relies
      rcases before acknowledged with old | ⟨none, written⟩
      · exact .inl ⟨rfl, old⟩
      · exact .inr ⟨none, written, .inl ⟨deadline, record, rfl⟩⟩
  | renewing held record started =>
      rcases relies with same | ⟨rfl, acknowledged⟩
      · exact .inl (.inl same)
      · rcases before acknowledged with old | ⟨none, written⟩
        · exact .inl (.inr ⟨rfl, old⟩)
        · exact .inr ⟨none, written, .inr ⟨held, record, rfl⟩⟩
  | _ => exact .inl relies

theorem Reigns.spared {next : Contest ι τ} {begun : Nat} (reigns : w.Reigns R i begun)
    (versions : next.versions = w.versions)
    (requests : ∀ request ∈ next.requests i, request.outcome = none →
      request ∈ w.requests i ∨ ∀ record token, request.call = .update record token →
        ¬ record.IsVacant) : next.Reigns R i begun := by
  obtain ⟨newest, older, list, writer, occupied, recent, retained⟩ := reigns
  refine ⟨newest, older, versions.trans list, writer, occupied, recent, ?_⟩
  intro request among pending record call
  rcases requests request among pending with before | harmless
  · exact retained request before pending record call
  · exact harmless record newest.token call

theorem Sovereign.pass (sovereign : w.Sovereign R) (time : Nat) : (w.pass time).Sovereign R := by
  intro i begun relies inTime
  have inTime : (w.seats i).now + time ≤ begun + (R.config i).renewDeadline.nanoseconds := inTime
  exact sovereign i begun relies (by omega)

variable [DecidableEq τ]

theorem Sovereign.turned (sovereign : w.Sovereign R) (sound : w.Sound R) {next : Contest ι τ}
    {m : Moment} {signal : Signal τ} {begun : Nat}
    (expected : ∀ answer, signal = .answered answer → (w.seats i).elector.stage.Expects answer)
    (may : ∀ answer, signal = .answered answer → w.MayAnswer i answer)
    (versions : next.versions = w.versions)
    (elector : (next.seats i).elector =
      ((w.seats i).elector.step (R.config i) m signal).elector)
    (requests : next.requests i =
      (((w.seats i).elector.step (R.config i) m signal).calls.map
        fun call => ⟨call, w.now, none⟩).reverse ++ w.requests i)
    (relies : (next.seats i).elector.stage.Relies (next.requests i) begun)
    (inTime : (w.seats i).now ≤ begun + (R.config i).renewDeadline.nanoseconds) :
    next.Reigns R i begun := by
  have orderly := (sound.seated i).reachable.orderly
  have passage := Elector.step_passes (m := m) orderly.identity expected
  have own (held : Held τ) (due : Nat) (holding : (w.seats i).elector.stage = .holding held due) :
      held.record.holder = (R.config i).identity := by
    have fits := orderly.fits
    rw [holding] at fits
    exact fits.own
  rw [elector, requests] at relies
  have before := relies_before passage (fun held kept => relies_of_kept may kept) relies
  refine (sovereign i begun before inTime).spared versions ?_
  intro request among _
  rw [requests, List.mem_append, List.mem_reverse, List.mem_map] at among
  rcases among with ⟨call, asked, rfl⟩ | old
  · right
    rintro record token rfl
    exact retains passage (R.named i) own relies asked
  · exact .inl old

section Serving

variable {later earlier : List (Request τ)} {call : StoreCall τ} {begun : Nat} {token : τ}

/-- Nobody writes over the version of a participant that relies on a write in time. -/
theorem Reigns.barred (clocks : R.ClocksAgree) (fit : R.LeasesFit) (sound : w.Sound R)
    {j : ι} {since : Nat} (reigns : w.Reigns R j since)
    (inTime : (w.seats j).now ≤ since + (R.config j).renewDeadline.nanoseconds) (other : j ≠ i)
    (asked : w.requests i = later ++ ⟨call, begun, none⟩ :: earlier) {record : LeaseRecord}
    (how : (w.versions = [] ∧ call = .create record) ∨
      ∃ newest older, w.versions = newest :: older ∧ call = .update record newest.token) :
    False := by
  obtain ⟨newest, older, list, rfl, occupied, recent, -⟩ := reigns
  have follows := sound.follows newest.token asked how
  rw [list] at follows
  have genuine : newest.Genuine R := sound.chained.genuine newest (by simp [list])
  have barred := follows.2.barred clocks fit genuine occupied other follows.1
  have dated := (sound.seated i).dated ⟨call, begun, none⟩ (by simp [asked])
  have clock := (sound.seated newest.writer).clock
  dsimp only at barred dated
  omega

theorem Sound.claims (sound : w.Sound R) {since : Nat} {record : LeaseRecord}
    (asked : w.requests i = ⟨call, begun, none⟩ :: earlier) (writes : call.record? = some record)
    (stage : (∃ deadline record, (w.seats i).elector.stage = .claiming deadline record since) ∨
      ∃ held record, (w.seats i).elector.stage = .renewing held record since) :
    ¬ record.IsVacant ∧ since = R.offset i + begun := by
  have seated := sound.seated i
  have fits := seated.reachable.orderly.fits
  have awaits := seated.awaits
  rcases stage with ⟨deadline, claimed, stage⟩ | ⟨held, claimed, stage⟩
  all_goals
    rw [stage] at fits awaits
    obtain ⟨request, rest, head, written, time⟩ := awaits trivial
    obtain ⟨rfl, rfl⟩ := List.cons.inj (asked.symm.trans head)
    have same : claimed = record := Option.some.inj (written.symm.trans writes)
    subst same
    exact ⟨fun vacant => R.named i (fits.2.2.symm.trans vacant), time⟩

theorem Sovereign.claims (sovereign : w.Sovereign R) (sound : w.Sound R) {since : Nat}
    {record : LeaseRecord} {answer : StoreAnswer τ}
    (asked : w.requests i = later ++ ⟨call, begun, none⟩ :: earlier)
    (writes : call.record? = some record)
    (how : (w.versions = [] ∧ call = .create record) ∨
      ∃ newest older, w.versions = newest :: older ∧ call = .update record newest.token)
    (relies : (w.seats i).elector.stage.Relies
      (later ++ ⟨call, begun, some answer⟩ :: earlier) since)
    (inTime : (w.seats i).now ≤ since + (R.config i).renewDeadline.nanoseconds) :
    ¬ record.IsVacant ∧ since ≤ R.offset i + begun := by
  rcases relies_served relies with before | ⟨rfl, -, stage⟩
  · rw [← asked] at before
    obtain ⟨newest, older, list, -, -, recent, retained⟩ := sovereign i since before inTime
    have follows := sound.follows newest.token asked how
    rcases how with ⟨none, -⟩ | ⟨head, rest, some, rfl⟩
    · rw [none] at list
      cases list
    · obtain ⟨rfl, rfl⟩ := List.cons.inj (some.symm.trans list)
      rw [list] at follows
      have order : head.begun ≤ begun := follows.1
      exact ⟨retained ⟨_, begun, none⟩ (by simp [asked]) rfl record rfl, by omega⟩
  · obtain ⟨occupied, same⟩ := sound.claims asked writes stage
    exact ⟨occupied, Nat.le_of_eq same⟩

variable [DecidableEq ι]

theorem Sovereign.act (sovereign : w.Sovereign R) (sound : w.Sound R) {move : Move τ}
    (allowed : (w.seats i).Allows move)
    (honest : ∀ answer, move = .hear (.answered answer) → w.MayAnswer i answer) :
    (w.act R i move).Sovereign R := by
  intro j begun relies inTime
  by_cases mine : j = i
  · subst mine
    have seat := w.act_seat R j move
    have requests := w.act_requests R j move
    cases move with
    | start cancelled =>
        rw [seat] at inTime
        exact sovereign.turned sound (by simp) (by simp) rfl (congrArg Course.elector seat)
          requests relies inTime
    | hear signal =>
        rw [seat] at inTime
        exact sovereign.turned sound allowed.expected
          (fun answer same => honest answer (same ▸ rfl)) rfl (congrArg Course.elector seat)
          requests relies inTime
    | cancel =>
        rw [seat, requests] at relies
        rw [seat] at inTime
        refine (sovereign j begun relies inTime).spared rfl fun request among _ => .inl ?_
        rwa [requests] at among
    | restart =>
        rw [seat] at relies
        exact relies.elim
  · have seat := w.act_seat_of_ne R i move mine
    have requests := w.act_requests_of_ne R i move mine
    rw [seat, requests] at relies
    rw [seat] at inTime
    refine (sovereign j begun relies inTime).spared rfl fun request among _ => .inl ?_
    rwa [requests] at among

/-- A call that is still under way once another one has taken effect was under way before. -/
theorem serve_pending {j : ι} (asked : w.requests i = later ++ ⟨call, begun, none⟩ :: earlier) :
    ∀ request ∈ (w.serve R i later call begun earlier token).requests j,
      request.outcome = none → request ∈ w.requests j := by
  intro request among unanswered
  by_cases mine : j = i
  · subst mine
    rw [w.serve_requests R j later earlier call begun token, List.mem_append,
      List.mem_cons] at among
    rw [asked, List.mem_append, List.mem_cons]
    rcases among with before | rfl | after
    · exact .inl before
    · cases unanswered
    · exact .inr (.inr after)
  · rwa [w.serve_requests_of_ne R i later earlier call begun token mine] at among

theorem Sovereign.serve (sovereign : w.Sovereign R) (clocks : R.ClocksAgree) (fit : R.LeasesFit)
    (sound : w.Sound R) (asked : w.requests i = later ++ ⟨call, begun, none⟩ :: earlier)
    (fresh : ∀ v ∈ w.versions, v.token ≠ token) :
    (w.serve R i later call begun earlier token).Sovereign R := by
  intro j since relies inTime
  have served := w.serve_requests R i later earlier call begun token
  have pending : ∀ request ∈ (w.serve R i later call begun earlier token).requests j,
      request.outcome = none → request ∈ w.requests j := serve_pending asked
  have others (mine : j ≠ i) : w.Reigns R j since := by
    rw [w.serve_requests_of_ne R i later earlier call begun token mine] at relies
    exact sovereign j since relies inTime
  rcases Version.serve_cases w.versions (R.config i).key i begun token call with
    ⟨same, answer⟩ | ⟨record, writes, written, grown, how⟩
  · have before : w.Reigns R j since := by
      by_cases mine : j = i
      · subst mine
        rw [served] at relies
        rcases relies_served relies with before | ⟨-, ⟨token, written⟩, -⟩
        · rw [← asked] at before
          exact sovereign j since before inTime
        · rcases answer with ⟨error, failed⟩ | ⟨v, among, found⟩
          · cases failed.symm.trans written
          · cases found.symm.trans written
      · exact others mine
    exact before.spared same fun request among unanswered =>
      .inl (pending request among unanswered)
  · by_cases mine : j = i
    · subst mine
      rw [served] at relies
      obtain ⟨occupied, recent⟩ := sovereign.claims sound asked writes how relies inTime
      refine ⟨_, _, grown, rfl, occupied, recent, ?_⟩
      -- calls that are still under way were made from older versions
      rintro request among unanswered given call
      have founded := (sound.seated j).founded request (pending request among unanswered)
      rw [call] at founded
      obtain ⟨v, old, named, -⟩ := founded
      exact absurd named (fresh v old)
    · exact ((others mine).barred clocks fit sound inTime mine asked how).elim

end Serving

theorem Reachable.sovereign [DecidableEq ι] (reachable : Reachable R w) (clocks : R.ClocksAgree)
    (fit : R.LeasesFit) : w.Sovereign R := by
  induction reachable with
  | initial => exact fun i begun relies => relies.elim
  | step reachable step ih =>
      have sound := reachable.sound
      cases step with
      | act i move allowed honest => exact ih.act sound allowed honest
      | serve i later call begun earlier token asked fresh =>
          exact ih.serve clocks fit sound asked fresh
      | pass time may => exact ih.pass time

end Contest

end LeaseElection