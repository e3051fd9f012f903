import LeaseElection.Proofs.Course.Readings
import Mathlib.Data.Nat.Find

namespace LeaseElection

open Duration (nanosPerSecond)

/-- Whether a record is due to be claimed by a participant that has read nothing else since some
local time. -/
def LeaseRecord.IsDue (record : LeaseRecord) (identity : String) (wall : Instant)
    (since now : Nat) : Prop :=
  record.IsVacant ∨ record.IsHeldBy identity ∨ record.expiresAt < wall ∨
    since + record.leaseSeconds.toNat * nanosPerSecond < now

instance (record : LeaseRecord) (identity : String) (wall : Instant) (since now : Nat) :
    Decidable (record.IsDue identity wall since now) :=
  inferInstanceAs (Decidable (_ ∨ _ ∨ record.IsExpired wall ∨ _))

/-- The record is being read in order to claim it. -/
def Stage.IsReading (s : Stage τ) : Prop := ∃ deadline, s = .reading deadline

namespace Elector

variable {τ : Type} {c : ElectionConfig} {m : Moment} {t : Turn τ}

/-- A leader that is not cancelled calls nobody when it settles down to wait. -/
theorem hold_quiet (free : m.cancelled = false) (running : t.elector.work = .running)
    (quiet : t.calls = []) (held : Held τ) : (hold c m t held).calls = [] := by
  simp only [hold, free, stop]
  split
  · contradiction
  · split
    · simp [running, quiet, Effect.call?]
    · exact quiet

theorem acquired_quiet (free : m.cancelled = false) (quiet : t.calls = []) (held : Held τ) :
    (acquired c m t held).calls = [] := by
  simp only [acquired, free, lead]
  split
  · contradiction
  · exact hold_quiet free rfl (by simp [quiet, Effect.call?]) held

theorem rest_quiet (quiet : t.calls = []) : (rest c m t).calls = [] := by
  unfold rest
  split
  · simp [finish, quiet, Effect.call?]
  · exact quiet

theorem found_claims {deadline : Nat} (free : m.cancelled = false) (quiet : t.calls = []) :
    (found c m t deadline).calls = [.create (.claimed t.identity c.lease m.wall)] := by
  simp [found, claim, free, quiet, Effect.call?]

theorem attempt_reads (free : m.cancelled = false) : attempt c m t =
    (t.become (.reading (m.now + c.renewDeadline.nanoseconds))).emit (.call .get) := by
  simp [attempt, free]

variable [DecidableEq τ] {current : Versioned τ} {deadline : Nat}

theorem noted_token (last : Option (Sighting τ)) : (noted m last current).token = current.token := by
  unfold noted
  split
  · split
    · assumption
    · rfl
  · rfl

/-- A version that is read again is noted as before. -/
theorem noted_noted (later : Moment) (last : Option (Sighting τ)) :
    noted later (some (noted m last current)) current = noted m last current := by
  rw [noted, if_pos (noted_token last)]

theorem isClaimable_observe (current : Versioned τ) :
    IsClaimable m (observe m t current).elector current.record ↔
    current.record.IsDue t.identity m.wall (noted m t.elector.sighting current).since m.now := by
  have identity : (observe m t current).elector.status.identity = t.identity :=
    observe_identity t current
  have stale : IsStale m (observe m t current).elector current.record ↔
      (noted m t.elector.sighting current).since +
        current.record.leaseSeconds.toNat * nanosPerSecond < m.now := by
    simp only [IsStale, observe_sighting]
    omega
  rw [IsClaimable, identity, stale]
  rfl

theorem consider_claims (deadline : Nat) (free : m.cancelled = false) (quiet : t.calls = [])
    (due : IsClaimable m (observe m t current).elector current.record) :
    (consider c m t deadline current).calls =
      [.update (current.record.takenOverBy t.identity c.lease m.wall) current.token] := by
  simp [consider, due, claim, free, quiet, Effect.call?]

theorem consider_rests (free : m.cancelled = false)
    (early : ¬ IsClaimable m (observe m t current).elector current.record) :
    consider c m t deadline current =
      (observe m t current).become (.waiting (m.now + c.retryPeriod.nanoseconds)) := by
  simp [consider, early, rest, free]

end Elector

namespace Course

variable [DecidableEq τ] (c : ElectionConfig) (k : Course τ)

/-- What a participant that seeks the lease writes when it hears of something. -/
structure ObeysClaimRule (wall : Instant) (signal : Signal τ) : Prop where
  /-- A record is created where none was found. -/
  creates : ∀ record, .create record ∈ (k.turn c wall signal).calls ↔
    k.elector.stage.IsReading ∧
      (∃ error, signal = .answered (.failed error) ∧ error.IsNotFound) ∧
      record = .claimed c.identity c.lease wall
  /-- The record that was found is taken over where it is due. -/
  updates : ∀ record token, .update record token ∈ (k.turn c wall signal).calls ↔
    k.elector.stage.IsReading ∧
      ∃ current since, signal = .answered (.found current) ∧
        Reading.first? current.token (⟨current, k.now⟩ :: Trace.readings k.trace) = some since ∧
        current.record.IsDue c.identity wall since k.now ∧
        record = current.record.takenOverBy c.identity c.lease wall ∧ token = current.token
  once : (k.turn c wall signal).calls.length ≤ 1

section Rule

variable {c k} {wall : Instant} {signal : Signal τ}

theorem obeys_of_quiet
    (quiet : (k.turn c wall signal).calls = [] ∨ (k.turn c wall signal).calls = [.get])
    (missing : k.elector.stage.IsReading → ∀ error, signal = .answered (.failed error) →
      ¬ error.IsNotFound)
    (unread : k.elector.stage.IsReading → ∀ current, signal ≠ .answered (.found current)) :
    k.ObeysClaimRule c wall signal where
  creates := by
    intro record
    constructor
    · rcases quiet with none | reads
      · simp [none]
      · simp [reads]
    · rintro ⟨reading, ⟨error, heard, notFound⟩, -⟩
      exact absurd notFound (missing reading error heard)
  updates := by
    intro record token
    constructor
    · rcases quiet with none | reads
      · simp [none]
      · simp [reads]
    · rintro ⟨reading, current, since, heard, -⟩
      exact absurd heard (unread reading current)
  once := by
    rcases quiet with none | reads
    · simp [none]
    · simp [reads]

/-- When the reading of a version that is just heard of began its unbroken run. -/
theorem Remembers.first? (remembers : k.Remembers) (seeks : k.elector.stage.Seeks)
    (current : Versioned τ) (wall : Instant) :
    Reading.first? current.token (⟨current, k.now⟩ :: Trace.readings k.trace) =
      some (Elector.noted (k.moment wall) k.elector.sighting current).since := by
  have noted := Reading.sighting?_cons (k.moment wall) current (Trace.readings k.trace)
  rw [← remembers seeks] at noted
  have since := congrArg (Option.map Sighting.since) noted
  simpa [Reading.sighting?, Reading.first?_of_same, moment] using since

theorem turn_of_reading {deadline : Nat} (stage : k.elector.stage = .reading deadline)
    (current : Versioned τ) (wall : Instant) : k.turn c wall (.answered (.found current)) =
      Elector.consider c (k.moment wall) ⟨k.elector, []⟩ deadline current := by
  simp only [turn, Elector.step, Elector.onAnswer, stage]

theorem obeys_of_found (orderly : k.Orderly c) (remembers : k.Remembers)
    (free : k.cancelled = false) {deadline : Nat} (stage : k.elector.stage = .reading deadline)
    (current : Versioned τ) : k.ObeysClaimRule c wall (.answered (.found current)) := by
  have reading : k.elector.stage.IsReading := ⟨deadline, stage⟩
  have first := remembers.first? (stage ▸ trivial) current wall
  have turn := turn_of_reading (c := c) stage current wall
  have claimable :=
    Elector.isClaimable_observe (m := k.moment wall) (t := ⟨k.elector, []⟩) current
  rw [show (Turn.mk k.elector []).identity = c.identity from orderly.identity] at claimable
  by_cases due : current.record.IsDue c.identity wall
      (Elector.noted (k.moment wall) k.elector.sighting current).since k.now
  · have calls : (k.turn c wall (.answered (.found current))).calls =
        [.update (current.record.takenOverBy c.identity c.lease wall) current.token] := by
      rw [turn, Elector.consider_claims deadline free rfl (claimable.mpr due)]
      simp only [Turn.identity, orderly.identity, moment]
    constructor
    · simp [calls]
    · intro record token
      simp only [calls, List.mem_singleton, StoreCall.update.injEq, reading, true_and]
      constructor
      · rintro ⟨rfl, rfl⟩
        exact ⟨current, _, rfl, first, due, rfl, rfl⟩
      · rintro ⟨_, _, ⟨⟩, -, -, rfl, rfl⟩
        exact ⟨rfl, rfl⟩
    · simp [calls]
  · have calls : (k.turn c wall (.answered (.found current))).calls = [] := by
      rw [turn, Elector.consider_rests free fun claim => due (claimable.mp claim)]
      simp
    constructor
    · simp [calls]
    · intro record token
      simp only [calls, List.not_mem_nil, false_iff]
      rintro ⟨-, _, since, ⟨⟩, read, claim, -⟩
      cases first.symm.trans read
      exact due claim
    · simp [calls]

theorem obeys_of_missing (orderly : k.Orderly c) (free : k.cancelled = false) {deadline : Nat}
    (stage : k.elector.stage = .reading deadline) {error : StoreError}
    (notFound : error.IsNotFound) : k.ObeysClaimRule c wall (.answered (.failed error)) := by
  have reading : k.elector.stage.IsReading := ⟨deadline, stage⟩
  have calls : (k.turn c wall (.answered (.failed error))).calls =
      [.create (.claimed c.identity c.lease wall)] := by
    simp only [turn, Elector.step, Elector.onAnswer, stage, notFound, if_true]
    rw [Elector.found_claims free rfl]
    simp only [Turn.identity, orderly.identity, moment]
  constructor
  · intro record
    simp [calls, reading, notFound]
  · simp [calls]
  · simp [calls]

theorem obeys (orderly : k.Orderly c) (remembers : k.Remembers) (free : k.cancelled = false)
    (seeks : k.elector.stage.Seeks) (allowed : k.Allows (.hear signal)) :
    k.ObeysClaimRule c wall signal := by
  cases signal with
  | start => exact allowed.elim
  | cancelled => exact absurd (free.symm.trans allowed) (by decide)
  | workEnded panicked =>
      refine obeys_of_quiet (.inl ?_) (by simp) (by simp)
      simp only [turn, Elector.step]
      split
      · cases stage : k.elector.stage with
        | stopping held reason => simp [stage, Stage.Seeks] at seeks
        | _ => simp [Elector.onWorkEnded, stage]
      · rfl
  | timer =>
      refine obeys_of_quiet ?_ (by simp) (by simp)
      simp only [turn, Elector.step, moment, free, Bool.false_eq_true, false_and, if_false]
      split
      · split
        · exact .inl rfl
        · cases stage : k.elector.stage with
          | reading deadline | claiming deadline record stamped =>
              simp only [Elector.onTimer, stage]
              exact .inl (Elector.rest_quiet (by simp [Effect.call?]))
          | waiting next =>
              simp [Elector.onTimer, stage, Elector.attempt_reads, Effect.call?]
          | _ => simp [stage, Stage.Seeks] at seeks
      · exact .inl rfl
  | answered answer =>
      cases stage : k.elector.stage with
      | reading deadline =>
          cases answer with
          | found current => exact obeys_of_found orderly remembers free stage current
          | written token => simp [stage, Allows, Stage.Expects] at allowed
          | failed error =>
              by_cases notFound : error.IsNotFound
              · exact obeys_of_missing orderly free stage notFound
              · refine obeys_of_quiet (.inl ?_) (by simpa using fun _ => notFound) (by simp)
                simp only [turn, Elector.step, Elector.onAnswer, stage, if_neg notFound]
                exact Elector.rest_quiet rfl
      | claiming deadline record stamped =>
          have unread : ¬ k.elector.stage.IsReading := by
            rintro ⟨deadline, reading⟩
            cases stage.symm.trans reading
          refine obeys_of_quiet (.inl ?_) (fun reading => absurd reading unread)
            (fun reading => absurd reading unread)
          cases answer with
          | found current => simp [stage, Allows, Stage.Expects] at allowed
          | written token =>
              simp only [turn, Elector.step, Elector.onAnswer, stage]
              exact Elector.acquired_quiet free rfl _
          | failed error =>
              simp only [turn, Elector.step, Elector.onAnswer, stage]
              exact Elector.rest_quiet rfl
      | _ => simp [stage, Stage.Seeks, Allows, Stage.Expects] at seeks allowed

end Rule

section Polling

variable (wall : Nat → Instant) (current : Versioned τ)

/-- A participant that reads the record is shown a version at once, and reads again when its timer
goes off on time. The wall clock shows one instant at every local time. -/
def poll : Course τ :=
  let rested := (k.hear c (wall k.now) (.answered (.found current))).pass c.retryPeriod.nanoseconds
  rested.hear c (wall rested.now) .timer

/-- A participant that has been shown one version so many times. -/
def polled : Nat → Course τ
  | 0 => k
  | n + 1 => (polled n).poll c wall current

/-- Whether a record has lapsed, by its own times or by how long it has gone unchanged, when it is
read for the first time (`n = 0`) or after so many retry periods. -/
def LapsedAt (n : Nat) : Prop :=
  current.record.expiresAt < wall (k.now + n * c.retryPeriod.nanoseconds) ∨
    current.record.leaseSeconds.toNat * nanosPerSecond < n * c.retryPeriod.nanoseconds

instance (n : Nat) : Decidable (k.LapsedAt c wall current n) :=
  inferInstanceAs (Decidable (current.record.IsExpired _ ∨ _))

/-- The record is taken over at the first poll that finds it lapsed, and soon. -/
structure TakesOver (pace : Pace) (n : Nat) : Prop where
  polls : ∀ i ≤ n, Reachable c pace (k.polled c wall current i) ∧
    (k.polled c wall current i).elector.stage.IsReading ∧
    (k.polled c wall current i).now = k.now + i * c.retryPeriod.nanoseconds
  rests : ∀ i < n, ¬ k.LapsedAt c wall current i ∧
    ((k.polled c wall current i).turn c (wall (k.now + i * c.retryPeriod.nanoseconds))
      (.answered (.found current))).calls = []
  claims : k.LapsedAt c wall current n ∧
    ((k.polled c wall current n).turn c (wall (k.now + n * c.retryPeriod.nanoseconds))
      (.answered (.found current))).calls =
        [.update (current.record.takenOverBy c.identity c.lease
          (wall (k.now + n * c.retryPeriod.nanoseconds))) current.token]
  soon : n * c.retryPeriod.nanoseconds ≤
    current.record.leaseSeconds.toNat * nanosPerSecond + c.retryPeriod.nanoseconds

/-- A participant that is about to be shown a version which it first read at some local time. -/
structure Awaits (pace : Pace) (since : Nat) (k : Course τ) : Prop where
  reachable : Reachable c pace k
  free : k.cancelled = false
  reading : k.elector.stage.IsReading
  noted : ∀ wall, (Elector.noted (k.moment wall) k.elector.sighting current).since = since

variable {c k wall current} {pace : Pace} {since : Nat}

/-- Whether a record of somebody else is claimed is a matter of time alone. -/
theorem Awaits.claimable_iff (awaits : Awaits c current pace since k)
    (foreign : ¬ current.record.IsVacant ∧ ¬ current.record.IsHeldBy c.identity) (wall : Instant) :
    Elector.IsClaimable (k.moment wall)
        (Elector.observe (k.moment wall) ⟨k.elector, []⟩ current).elector current.record ↔
      current.record.expiresAt < wall ∨
        since + current.record.leaseSeconds.toNat * nanosPerSecond < k.now := by
  have identity : (Turn.mk k.elector []).identity = c.identity := awaits.reachable.orderly.identity
  rw [Elector.isClaimable_observe, identity, LeaseRecord.IsDue, awaits.noted wall]
  simp only [foreign, false_or]
  rfl

/-- A participant that waits reads the record once its timer goes off. -/
theorem turn_of_waiting (free : k.cancelled = false) (stage : k.elector.stage = .waiting k.now)
    (wall : Instant) : k.turn c wall .timer =
      ((Turn.mk k.elector []).become (.reading (k.now + c.renewDeadline.nanoseconds))).emit
        (.call .get) := by
  have due : k.elector.alarm? c = some k.now := by simp [Elector.alarm?, stage]
  simp only [turn, Elector.step, due, moment, Nat.lt_irrefl, free, Bool.false_eq_true, false_and,
    if_false, Elector.onTimer, stage]
  exact Elector.attempt_reads rfl

/-- A version that is not claimed yet is read again one retry period later. -/
theorem Awaits.poll (awaits : Awaits c current pace since k) (wall : Nat → Instant)
    (early : ¬ Elector.IsClaimable (k.moment (wall k.now))
      (Elector.observe (k.moment (wall k.now)) ⟨k.elector, []⟩ current).elector current.record) :
    (k.turn c (wall k.now) (.answered (.found current))).calls = [] ∧
      Awaits c current pace since (k.poll c wall current) := by
  obtain ⟨deadline, stage⟩ := awaits.reading
  have turn := turn_of_reading (c := c) stage current (wall k.now)
  rw [Elector.consider_rests awaits.free early] at turn
  refine ⟨by simp [turn], ?_⟩
  have heard : Reachable c pace (k.hear c (wall k.now) (.answered (.found current))) :=
    awaits.reachable.does (wall k.now) (.hear (.answered (.found current)))
      (by simp [Allows, stage, Stage.Expects])
  have waiting : (k.hear c (wall k.now) (.answered (.found current))).elector =
      ((Elector.observe (k.moment (wall k.now)) ⟨k.elector, []⟩ current).become
        (.waiting (k.now + c.retryPeriod.nanoseconds))).elector := congrArg Turn.elector turn
  have rested := heard.waits c.retryPeriod.nanoseconds ⟨by
      intro _ due alarm
      rw [waiting] at alarm
      cases alarm
      exact Nat.le_refl _, by
      intro _ held reason stopping
      rw [waiting] at stopping
      cases stopping⟩
  have woken := turn_of_waiting (c := c)
    (k := (k.hear c (wall k.now) (.answered (.found current))).pass c.retryPeriod.nanoseconds)
    awaits.free (congrArg Elector.stage waiting) (wall (k.now + c.retryPeriod.nanoseconds))
  have read : (k.poll c wall current).elector = _ := congrArg Turn.elector woken
  have sighting : (k.poll c wall current).elector.sighting =
      some (Elector.noted (k.moment (wall k.now)) k.elector.sighting current) := by
    rw [read]
    change (k.hear c (wall k.now) (.answered (.found current))).elector.sighting = _
    rw [waiting]
    exact Elector.observe_sighting _ _
  exact
    { reachable := rested.does _ (.hear .timer) trivial
      free := awaits.free
      reading := ⟨_, congrArg Elector.stage read⟩
      noted := by
        intro later
        rw [sighting, Elector.noted_noted]
        exact awaits.noted (wall k.now) }

theorem polled_now (n : Nat) :
    (k.polled c wall current n).now = k.now + n * c.retryPeriod.nanoseconds := by
  induction n with
  | zero => simp [polled]
  | succ n ih =>
      change (k.polled c wall current n).now + c.retryPeriod.nanoseconds = _
      rw [ih, Nat.succ_mul, Nat.add_assoc]

theorem Awaits.polled (awaits : Awaits c current pace k.now k)
    (foreign : ¬ current.record.IsVacant ∧ ¬ current.record.IsHeldBy c.identity) (n : Nat)
    (early : ∀ i < n, ¬ k.LapsedAt c wall current i) :
    Awaits c current pace k.now (k.polled c wall current n) := by
  induction n with
  | zero => exact awaits
  | succ n ih =>
      have before := ih fun i earlier => early i (Nat.lt_succ_of_lt earlier)
      refine (before.poll wall ?_).2
      rw [before.claimable_iff foreign, polled_now, Nat.add_lt_add_iff_left]
      exact early n (Nat.lt_succ_self n)

omit [DecidableEq τ] in
/-- Sooner or later a record that never changes has lapsed. -/
theorem exists_lapsed (k : Course τ) (wall : Nat → Instant) (current : Versioned τ)
    (retries : 0 < c.retryPeriod.nanoseconds) :
    ∃ n, k.LapsedAt c wall current n ∧ n * c.retryPeriod.nanoseconds ≤
      current.record.leaseSeconds.toNat * nanosPerSecond + c.retryPeriod.nanoseconds := by
  refine ⟨current.record.leaseSeconds.toNat * nanosPerSecond / c.retryPeriod.nanoseconds + 1,
    .inr ?_, ?_⟩
  · rw [Nat.mul_comm _ c.retryPeriod.nanoseconds]
    exact Nat.lt_mul_div_succ _ retries
  · rw [Nat.succ_mul]
    exact Nat.add_le_add_right (Nat.div_mul_le_self _ _) _

theorem Awaits.takesOver (awaits : Awaits c current pace k.now k)
    (foreign : ¬ current.record.IsVacant ∧ ¬ current.record.IsHeldBy c.identity)
    (retries : 0 < c.retryPeriod.nanoseconds) : ∃ n, k.TakesOver c wall current pace n := by
  obtain ⟨last, lapsed, soon⟩ := exists_lapsed k wall current retries
  have lapses : ∃ n, k.LapsedAt c wall current n := ⟨last, lapsed⟩
  have until_lapse {i : Nat} (within : i ≤ Nat.find lapses) :
      Awaits c current pace k.now (k.polled c wall current i) :=
    awaits.polled foreign i fun j earlier => Nat.find_min lapses (Nat.lt_of_lt_of_le earlier within)
  have claimable {i : Nat} (within : i ≤ Nat.find lapses) :=
    (until_lapse within).claimable_iff foreign (wall (k.polled c wall current i).now)
  have lapsed_iff (i : Nat) : (current.record.expiresAt < wall (k.polled c wall current i).now ∨
      k.now + current.record.leaseSeconds.toNat * nanosPerSecond <
        (k.polled c wall current i).now) ↔ k.LapsedAt c wall current i := by
    rw [polled_now, Nat.add_lt_add_iff_left]
    rfl
  refine ⟨Nat.find lapses, ?_, ?_, ?_, ?_⟩
  · intro i within
    exact ⟨(until_lapse within).reachable, (until_lapse within).reading, polled_now i⟩
  · intro i earlier
    have early := Nat.find_min lapses earlier
    have within := Nat.le_of_lt earlier
    have rests := ((until_lapse within).poll wall (by rwa [claimable within, lapsed_iff])).1
    rw [polled_now] at rests
    exact ⟨early, rests⟩
  · have due := Nat.find_spec lapses
    have awaiting := until_lapse (Nat.le_refl _)
    obtain ⟨deadline, stage⟩ := awaiting.reading
    refine ⟨due, ?_⟩
    rw [← lapsed_iff, ← claimable (Nat.le_refl _)] at due
    have claims := Elector.consider_claims (c := c) deadline awaiting.free rfl due
    rw [← turn_of_reading stage, polled_now] at claims
    rw [claims]
    have identity := awaiting.reachable.orderly.identity
    simp only [Turn.identity, identity, moment]
  · exact Nat.le_trans (Nat.mul_le_mul_right _ (Nat.find_min' lapses lapsed)) soon

end Polling

/-- How a participant that seeks the lease comes to claim it. -/
structure KeepsClaimRule (pace : Pace) : Prop where
  rule : ∀ wall signal, k.Allows (.hear signal) → k.ObeysClaimRule c wall signal
  /-- Against one version of a record of somebody else, read for the first time. -/
  takeover : 0 < c.retryPeriod.nanoseconds → k.elector.stage.IsReading →
    ∀ (wall : Nat → Instant) (current : Versioned τ),
      ¬ current.record.IsVacant ∧ ¬ current.record.IsHeldBy c.identity →
      (∀ latest ∈ (Trace.readings k.trace).head?, latest.current.token ≠ current.token) →
      ∃ n, k.TakesOver c wall current pace n

variable {c k} {pace : Pace}

/-- Whatever was read before: a participant that seeks the lease claims what is due, and nothing
else. -/
theorem claim_rule_kept (reachable : Reachable c pace k)
    (acquiring : k.elector.status.phase = .acquiring) (free : k.cancelled = false) :
    k.KeepsClaimRule c pace := by
  have orderly := reachable.orderly
  have remembers := reachable.remembers
  have seeks : k.elector.stage.Seeks := orderly.fits.seeks (orderly.phase.symm.trans acquiring)
  constructor
  · intro wall signal allowed
    exact obeys orderly remembers free seeks allowed
  · intro retries reading wall current foreign fresh
    refine Awaits.takesOver ⟨reachable, free, reading, ?_⟩ foreign retries
    intro wall
    rw [remembers seeks]
    cases read : Trace.readings k.trace with
    | nil => rfl
    | cons latest earlier =>
        have other : latest.current.token ≠ current.token := fresh latest (by simp [read])
        simp [Reading.sighting?, Reading.first?_of_same, Elector.noted, other, moment]

/-- A participant whose first run has just begun to read the record. -/
theorem claim_rule_kept_first_read :
    ∃ k : Course Nat, Reachable (.usual "a") ⟨true, true⟩ k ∧
      k.elector.status.phase = .acquiring ∧ k.cancelled = false ∧ k.elector.stage.IsReading ∧
      k.KeepsClaimRule (.usual "a") ⟨true, true⟩ := by
  have started : Reachable (.usual "a") ⟨true, true⟩ _ :=
    (Reachable.initial 0 : Reachable _ _ (_ : Course Nat)).does .epoch (.start false) rfl
  exact ⟨_, started, rfl, rfl, ⟨_, rfl⟩, claim_rule_kept started rfl rfl⟩

end Course

end LeaseElection
