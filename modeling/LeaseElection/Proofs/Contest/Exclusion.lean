import LeaseElection.Proofs.Contest.Sovereignty

namespace LeaseElection

namespace Trace

variable {τ : Type} [DecidableEq τ]

/-- A condition on traces that calls for a claim: what happens settles it or leaves it as it was,
and a participant meets it within a turn only by a claim that it may act upon. -/
structure Commands (pace : Pace) (P : Trace τ → Prop) : Prop where
  nil : ¬ P []
  told : ∀ m signal past, P (.told m signal :: past) ↔ P past
  cancelled : ∀ past, P (.cancelled :: past) ↔ P past
  restarted : ∀ past, ¬ P (.restarted :: past)
  did : ∀ effect past other, (P past → P other) → P (.did effect :: past) →
    P (.did effect :: other)
  claimed : ∀ {c : ElectionConfig} {k : Course τ} {wall : Instant} {signal : Signal τ}
    {done : List (Effect τ)}, k.Orderly c →
    (∀ answer, signal = .answered answer → k.elector.stage.Expects answer) →
    (∀ effect ∈ done, effect ∈ (k.turn c wall signal).effects) →
    P (done.map .did ++ .told (k.moment wall) signal :: k.trace) →
    ∃ held, Elector.Keeps c.identity k.elector.stage signal held ∧
      ∀ other reason, k.elector.stage = .stopping other reason → pace.prompt = true

theorem leads_commands (pace : Pace) : Commands pace (Leads (τ := τ)) where
  nil := by
    have idle : ¬ ElectionPhase.idle.Leads := by decide
    exact idle
  told _ _ _ := Iff.rfl
  cancelled _ := Iff.rfl
  restarted _ := by
    have idle : ¬ ElectionPhase.idle.Leads := by decide
    exact idle
  did effect past other as := by
    cases effect with
    | publish status => exact id
    | _ => exact as
  claimed := by
    intro c k wall signal done orderly expected among leads
    obtain ⟨held, kept, goesOn⟩ :=
      Elector.exists_claim (orderly.leads_within among leads)
    exact ⟨held, kept, fun other reason stopping => absurd stopping (goesOn other reason)⟩

theorem inOffice_commands {pace : Pace} (prompt : pace.prompt = true) :
    Commands pace (InOffice (τ := τ)) where
  nil := id
  told _ _ _ := Iff.rfl
  cancelled _ := Iff.rfl
  restarted _ := id
  did effect past other as := by
    cases effect with
    | hook call =>
        cases call with
        | newLeader leader => exact as
        | started cancelled | stopped => exact id
    | _ => exact as
  claimed := by
    intro c k wall signal done orderly expected among office
    rcases orderly.office_within among office with powerful | ⟨held, reason, stopping⟩
    · obtain ⟨held, kept, goesOn⟩ := Elector.exists_claim powerful
      exact ⟨held, kept, fun _ _ _ => prompt⟩
    · exact ⟨held, stopping ▸ .stopping, fun _ _ _ => prompt⟩

theorem Commands.append {pace : Pace} {P : Trace τ → Prop} (commands : Commands pace P)
    {past other : Trace τ} (as : P past → P other) (events : Trace τ) :
    P (events ++ past) → P (events ++ other) := by
  induction events with
  | nil => exact as
  | cons event events ih =>
      cases event with
      | did effect => exact commands.did effect _ _ ih
      | told m signal =>
          exact fun met => (commands.told m signal _).mpr (ih ((commands.told m signal _).mp met))
      | cancelled =>
          exact fun met => (commands.cancelled _).mpr (ih ((commands.cancelled _).mp met))
      | restarted => exact fun met => absurd met (commands.restarted _)

theorem Commands.forget {pace : Pace} {P : Trace τ → Prop} (commands : Commands pace P)
    {past : Trace τ} (unmet : ¬ P past) (events : Trace τ) (met : P (events ++ past)) :
    P events := by
  have none : P past → P [] := fun before => absurd before unmet
  have fresh := commands.append none events met
  rwa [List.append_nil] at fresh

theorem Commands.claimed_now {pace : Pace} {P : Trace τ → Prop} (commands : Commands pace P)
    {c : ElectionConfig} {k : Course τ} (orderly : k.Orderly c) (met : P k.trace) :
    ∃ held, Elector.Keeps c.identity k.elector.stage .timer held ∧
      ∀ other reason, k.elector.stage = .stopping other reason → pace.prompt = true := by
  have told : P (([] : List (Effect τ)).map .did ++ .told (k.moment .epoch) .timer :: k.trace) :=
    (commands.told _ _ _).mpr met
  exact commands.claimed orderly (by simp) (by simp) told

theorem Commands.not_met_idle {pace : Pace} {P : Trace τ → Prop} (commands : Commands pace P)
    {c : ElectionConfig} {k : Course τ} (orderly : k.Orderly c) (idle : k.elector.stage = .idle) :
    ¬ P k.trace := by
  intro met
  obtain ⟨held, kept, -⟩ := commands.claimed_now orderly met
  rw [idle] at kept
  cases kept

end Trace

namespace Contest

variable {ι τ : Type} {R : Roster ι} {w : Contest ι τ} {i j : ι} {P : Trace τ → Prop}

section Log

variable [DecidableEq ι]

theorem eventsOf_append (later log : List (ι × Event τ)) :
    eventsOf i (later ++ log) = eventsOf i later ++ eventsOf i log := List.filterMap_append ..

theorem eventsOf_self (events : Trace τ) :
    eventsOf i (events.map fun event => (i, event)) = events := by
  induction events with
  | nil => rfl
  | cons event events ih =>
      rw [eventsOf] at ih ⊢
      simp only [List.map_cons, List.filterMap_cons, ↓reduceIte, ih]

theorem eventsOf_other (other : j ≠ i) (events : Trace τ) :
    eventsOf j (events.map fun event => (i, event)) = [] := by
  simp [eventsOf, other.symm]

/-- What the log tells of a participant, its trace tells as well. -/
def Told (P : Trace τ → Prop) (w : Contest ι τ) : Prop :=
  ∀ i, P (eventsOf i w.log) → P (w.seats i).trace

/-- At no instant of the log do two participants meet a condition. -/
def Alone (P : Trace τ → Prop) (w : Contest ι τ) : Prop :=
  ∀ past, past <:+ w.log → ∀ i j, P (eventsOf i past) → P (eventsOf j past) → i = j

/-- At most one participant leads, now and at every instant before, and where workloads end promptly
at most one is in office. -/
structure Exclusive (R : Roster ι) (w : Contest ι τ) : Prop where
  leader : ∀ i j, (w.seats i).elector.status.IsLeader → (w.seats j).elector.status.IsLeader →
    i = j
  leads : w.Alone Trace.Leads
  office : R.pace.prompt = true → w.Alone Trace.InOffice

end Log

theorem Reigns.unique {begun other : Nat} (one : w.Reigns R i begun) (two : w.Reigns R j other) :
    i = j := by
  obtain ⟨newest, older, list, rfl, -⟩ := one
  obtain ⟨head, rest, same, rfl, -⟩ := two
  obtain ⟨rfl, rfl⟩ := List.cons.inj (list.symm.trans same)
  rfl

variable [DecidableEq τ]

theorem Sovereign.reigns (sovereign : w.Sovereign R) (sound : w.Sound R)
    (punctual : R.pace.punctual = true) {signal : Signal τ} {held : Held τ}
    (may : ∀ answer, signal = .answered answer → w.MayAnswer i answer)
    (kept : Elector.Keeps (R.config i).identity (w.seats i).elector.stage signal held)
    (attended : ∀ other reason, (w.seats i).elector.stage = .stopping other reason →
      R.pace.prompt = true) : w.Reigns R i held.stamped := by
  have inTime := (sound.seated i).reachable.inTime punctual
  exact sovereign i _ (relies_of_kept may kept) (kept.inTime inTime attended)

theorem Sovereign.reigns_of_met (sovereign : w.Sovereign R) (sound : w.Sound R)
    (punctual : R.pace.punctual = true) (commands : Trace.Commands R.pace P)
    (met : P (w.seats i).trace) : ∃ begun, w.Reigns R i begun := by
  have orderly := (sound.seated i).reachable.orderly
  obtain ⟨held, kept, attended⟩ := commands.claimed_now orderly met
  exact ⟨_, sovereign.reigns sound punctual (by simp) kept attended⟩

variable [DecidableEq ι] {move : Move τ}

/-- Whoever meets such a condition at an instant of its move reigns. -/
theorem Sovereign.reigns_within (sovereign : w.Sovereign R) (sound : w.Sound R)
    (punctual : R.pace.punctual = true) (commands : Trace.Commands R.pace P) (told : Told P w)
    (allowed : (w.seats i).Allows move)
    (honest : ∀ answer, move = .hear (.answered answer) → w.MayAnswer i answer)
    {part : Trace τ} (within : part <:+ (w.seats i).news (R.config i) (R.wall i w.now) move)
    (met : P (part ++ eventsOf i w.log)) : ∃ begun, w.Reigns R i begun := by
  have orderly := (sound.seated i).reachable.orderly
  have before (met : P (eventsOf i w.log)) : ∃ begun, w.Reigns R i begun :=
    sovereign.reigns_of_met sound punctual commands (told i met)
  cases move with
  | start cancelled =>
      -- the trace starts anew, and the log goes on
      have idle := commands.not_met_idle orderly allowed
      have fresh := commands.forget (fun earlier => idle (told i earlier)) part met
      rcases Course.instants within with opening | ⟨done, rfl, among⟩
      · rcases Course.opened_instants opening with rfl | rfl
        · exact absurd fresh commands.nil
        · exact absurd ((commands.cancelled []).mp fresh) commands.nil
      · have opened := orderly.opened allowed cancelled
        obtain ⟨held, kept, -⟩ := commands.claimed opened (by simp) among fresh
        have resting : ((w.seats i).opened cancelled).elector.stage = .idle := allowed
        rw [resting] at kept
        cases kept
  | cancel =>
      rcases List.suffix_cons_iff.mp within with rfl | rest
      · exact before ((commands.cancelled _).mp met)
      · rw [List.suffix_nil.mp rest] at met
        exact before met
  | restart =>
      rcases List.suffix_cons_iff.mp within with rfl | rest
      · exact absurd met (commands.restarted _)
      · rw [List.suffix_nil.mp rest] at met
        exact before met
  | hear signal =>
      have reacting (done : List (Effect τ))
          (among : ∀ effect ∈ done, effect ∈ ((w.seats i).turn (R.config i) (R.wall i w.now)
            signal).effects)
          (met : P (done.map .did ++ [.told ((w.seats i).moment (R.wall i w.now)) signal] ++
            eventsOf i w.log)) : ∃ begun, w.Reigns R i begun := by
        have along := commands.append (told i) _ met
        rw [← List.append_cons] at along
        obtain ⟨held, kept, attended⟩ := commands.claimed orderly allowed.expected among along
        exact ⟨_, sovereign.reigns sound punctual (fun answer same => honest answer (same ▸ rfl))
          kept attended⟩
      rcases Turn.instants within with hearing | ⟨done, rfl, among⟩
      · rcases List.suffix_cons_iff.mp hearing with rfl | rest
        · exact reacting [] (by simp) met
        · rw [List.suffix_nil.mp rest] at met
          exact before met
      · exact reacting done among met

theorem Told.act (told : Told P w) (sound : w.Sound R) (commands : Trace.Commands R.pace P)
    (allowed : (w.seats i).Allows move) : Told P (w.act R i move) := by
  intro j met
  have log : (w.act R i move).log =
      ((w.seats i).news (R.config i) (R.wall i w.now) move).map (fun event => (i, event)) ++
        w.log := rfl
  rw [log, eventsOf_append] at met
  by_cases mine : j = i
  · subst mine
    rw [eventsOf_self] at met
    rw [w.act_seat R j move]
    cases move with
    | start cancelled =>
        have idle := commands.not_met_idle (sound.seated j).reachable.orderly allowed
        exact commands.forget (fun earlier => idle (told j earlier)) _ met
    | cancel => exact commands.append (told j) [.cancelled] met
    | restart => exact absurd met (commands.restarted _)
    | hear signal =>
        have along := commands.append (told j) _ met
        have after : ((w.seats j).after (R.config j) (R.wall j w.now) (.hear signal)).trace =
            (w.seats j).news (R.config j) (R.wall j w.now) (.hear signal) ++
              (w.seats j).trace := by
          simp [Course.after, Course.hear, Course.news, Turn.trace_eq]
        rwa [after]
  · rw [eventsOf_other mine] at met
    rw [w.act_seat_of_ne R i move mine]
    exact told j met

theorem Reachable.told (reachable : Reachable R w) (commands : Trace.Commands R.pace P) :
    Told P w := by
  induction reachable with
  | initial => exact fun i met => absurd met commands.nil
  | step reachable step ih =>
      cases step with
      | act i move allowed honest => exact ih.act reachable.sound commands allowed
      | serve i later call begun earlier token asked fresh => exact ih
      | pass time may => exact ih

theorem Alone.act (alone : Alone P w) (sovereign : w.Sovereign R) (sound : w.Sound R)
    (punctual : R.pace.punctual = true) (commands : Trace.Commands R.pace P) (told : Told P w)
    (allowed : (w.seats i).Allows move)
    (honest : ∀ answer, move = .hear (.answered answer) → w.MayAnswer i answer) :
    Alone P (w.act R i move) := by
  intro past within
  rcases suffix_append_cases within with before | ⟨later, among, rfl⟩
  · exact alone past before
  · obtain ⟨part, tail, rfl⟩ := List.suffix_map_iff.mp among
    -- whoever meets the condition in the course of the move reigns before it
    have reigns (j : ι) (met : P (eventsOf j (part.map (fun event => (i, event)) ++ w.log))) :
        ∃ begun, w.Reigns R j begun := by
      rw [eventsOf_append] at met
      by_cases mine : j = i
      · subst mine
        rw [eventsOf_self] at met
        exact sovereign.reigns_within sound punctual commands told allowed honest tail met
      · rw [eventsOf_other mine] at met
        exact sovereign.reigns_of_met sound punctual commands (told j met)
    intro one two first second
    obtain ⟨begun, reign⟩ := reigns one first
    obtain ⟨other, rival⟩ := reigns two second
    exact reign.unique rival

theorem Reachable.alone (reachable : Reachable R w) (punctual : R.pace.punctual = true)
    (clocks : R.ClocksAgree) (fit : R.LeasesFit) (commands : Trace.Commands R.pace P) :
    Alone P w := by
  induction reachable with
  | initial =>
      intro past within i j met
      rw [List.suffix_nil.mp within] at met
      exact absurd met commands.nil
  | step reachable step ih =>
      cases step with
      | act i move allowed honest =>
          exact ih.act (reachable.sovereign clocks fit) reachable.sound punctual commands
            (reachable.told commands) allowed honest
      | serve i later call begun earlier token asked fresh => exact ih
      | pass time may => exact ih

theorem pair_wall (i : Bool) (now : Nat) : ¬ (Roster.pair.wall i now).InLeapSecond ∧
    (Roster.pair.wall i now).nanoseconds = min (now : Int) Instant.last.nanoseconds := by
  have last : Instant.last.nanoseconds = 8210266876799999999999 := rfl
  have ordinary : ¬ Instant.last.InLeapSecond := by decide
  have shows : Roster.pair.wall i now = (Instant.ofNanoseconds? now).getD .last := rfl
  rw [shows, last, Instant.ofNanoseconds?, Instant.ofParts?]
  split
  next within =>
    simp only [Option.getD_some, Instant.InLeapSecond, Instant.nanoseconds]
    have bound := within.2.1
    omega
  next beyond =>
    have late : 8210266876799 < (now : Int) / 1000000000 := by
      rw [← Int.not_le]
      intro early
      exact beyond ⟨by omega, early, by omega, by omega⟩
    refine ⟨ordinary, ?_⟩
    rw [Option.getD_none, last]
    omega

theorem pair_leasesFit : Roster.pair.LeasesFit := by
  intro i
  cases i <;> decide

theorem pair_clocksAgree : Roster.pair.ClocksAgree where
  ordinary i now := (pair_wall i now).1
  ahead := by
    intro holder claimant other stamped now order
    have shorter := Roster.renewDeadline_lt pair_leasesFit holder
    rw [(pair_wall claimant now).2, (pair_wall holder stamped).2]
    omega

/-- However calls are delayed or lost, and runs cancelled or started anew, no two participants
lead. -/
theorem exclusion_kept (reachable : Reachable R w) (punctual : R.pace.punctual = true)
    (clocks : R.ClocksAgree) (fit : R.LeasesFit) : w.Exclusive R where
  leader := by
    have sound := reachable.sound
    have sovereign := reachable.sovereign clocks fit
    have reigns (i : ι) (leader : (w.seats i).elector.status.IsLeader) :
        ∃ begun, w.Reigns R i begun := by
      have orderly := (sound.seated i).reachable.orderly
      have leads : Trace.Leads (w.seats i).trace := by
        rw [Trace.Leads, ← account_phase (R.config i).identity, ← orderly.phase]
        exact leader
      exact sovereign.reigns_of_met sound punctual (Trace.leads_commands R.pace) leads
    intro i j one two
    obtain ⟨begun, reign⟩ := reigns i one
    obtain ⟨other, rival⟩ := reigns j two
    exact reign.unique rival
  leads := reachable.alone punctual clocks fit (Trace.leads_commands R.pace)
  office := fun prompt =>
    reachable.alone punctual clocks fit (Trace.inOffice_commands prompt)

/-- A participant that creates the record leads, with another one about. -/
theorem exclusion_kept_first_claim : ∃ w : Contest Bool Nat, Reachable .pair w ∧
    (w.seats false).elector.status.IsLeader ∧ w.Exclusive .pair := by
  have started := (Reachable.initial : Reachable .pair (_ : Contest Bool Nat)).acts false
    (.start false) rfl (by simp)
  have rival := started.acts true (.start false) rfl (by simp)
  have absent := rival.serves false [] .get 0 [] 0 rfl (by decide)
  have claiming := absent.acts false
    (.hear (.answered (.failed (.notFound (Roster.pair.config false).key)))) trivial
    (fun answer same => by cases same; exact .inl ⟨_, rfl⟩)
  have created := claiming.serves false [] _ 0 _ 1 rfl (by decide)
  have leading := created.acts false (.hear (.answered (.written 1))) trivial
    (fun answer same => by cases same; exact .inr ⟨_, _, rfl, rfl⟩)
  exact ⟨_, leading, by decide, exclusion_kept leading rfl pair_clocksAgree pair_leasesFit⟩

end Contest

end LeaseElection
