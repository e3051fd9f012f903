import LeaseElection.Proofs.Solo.Hearing

namespace LeaseElection

namespace Solo

variable {c : ElectionConfig} {w : Solo τ}

/-- What a run that returned as cancelled has made of the record, whatever is yet to take effect. -/
structure HandsOver (c : ElectionConfig) (w : Solo τ) : Prop where
  /-- Whoever was elected has given the record up, unless a renewal came before the release. -/
  vacates : w.Elected c → ¬ w.Overtaken → w.Vacated
  /-- The token of the release was stale then, and the renewal stands. -/
  keeps : w.Elected c → w.Overtaken →
    ∃ newest ∈ w.versions.head?, newest.record.holder = c.identity
  /-- Whoever was not elected may have held the record when the run began, or hold it by a claim, or
  by a renewal of an earlier process, that was given up. -/
  seeks : ¬ w.Elected c → w.Holds c → w.versions = w.before ∨ w.Strayed

theorem Sound.holder_of_overtaken (sound : w.Sound c) (overtaken : w.Overtaken) :
    ∃ newest ∈ w.versions.head?, newest.record.holder = c.identity := by
  obtain ⟨asking, ⟨among, -, newest, stored, written⟩, renewal, -⟩ := overtaken
  have known := sound.each asking among
  have made := known.wrote newest (List.mem_of_mem_head? stored) written
  have apt := known.apt
  refine ⟨newest, stored, ?_⟩
  unfold Asking.IsRenewal at renewal
  split at renewal
  next stage =>
    simp only [Asking.Apt, stage] at apt
    obtain ⟨record, token, update, own⟩ := apt
    rw [update] at made
    cases made
    exact own
  · exact renewal.elim

variable [DecidableEq τ]

theorem release_kept (releases : c.releaseOnCancel = true) (reachable : Reachable c w)
    (returned : w.Returned) : w.HandsOver c := by
  have sound := reachable.sound releases
  have stands := sound.stands
  rw [sound.idle returned] at stands
  obtain ⟨released, sought⟩ := stands.2 returned
  refine ⟨?_, fun _ => sound.holder_of_overtaken, sought⟩
  intro elected free
  obtain ⟨token, -, given⟩ := released elected
  exact given.resolve_right free

/-- The latest call takes effect, and is answered at once. -/
def exchange (c : ElectionConfig) (w : Solo τ) (wall : Instant) (token : τ) : Solo τ :=
  match w.askings with
  | [] => w
  | latest :: earlier => (w.serve c [] latest earlier token).act c wall
      (.hear (.answered (w.served c latest.call token).1))

theorem Reachable.exchanges (reachable : Reachable c w) (wall : Instant) (token : τ)
    {latest : Asking τ} {earlier : List (Asking τ)} (asked : w.askings = latest :: earlier)
    (pending : latest.outcome = none) (fresh : ∀ v ∈ w.versions, v.token ≠ token)
    (expects : w.seat.elector.stage.Expects (w.served c latest.call token).1) :
    Reachable c (w.exchange c wall token) := by
  simp only [exchange, asked]
  refine (reachable.serves [] latest earlier token asked pending fresh).acts wall _ expects ?_ ?_
  · rintro _ ⟨⟩
  · rintro _ ⟨⟩
    exact ⟨_, _, rfl, rfl⟩

/-- What is no answer may happen whatever the calls came to. -/
theorem Reachable.meets (reachable : Reachable c w) (wall : Instant) (move : Move τ)
    (allowed : w.seat.Allows move) (answered : w.seat.elector.stage.Calls → move ≠ .hear .timer)
    (unasked : ∀ answer, move ≠ .hear (.answered answer)) : Reachable c (w.act c wall move) :=
  reachable.acts wall move allowed answered fun answer heard => absurd heard (unasked answer)

/-- A participant whose first run has begun to read the record. -/
def started : Solo Nat := (initial (.usual "a") 0 []).act (.usual "a") .epoch (.start false)

/-- A participant that has found no record, and was elected. -/
def elected : Solo Nat :=
  (started.exchange (.usual "a") .epoch 0).exchange (.usual "a") .epoch 0

theorem reachable_started : Reachable (.usual "a") started :=
  (Reachable.initial 0 []).meets .epoch (.start false) rfl (by simp) (by simp)

theorem reachable_elected : Reachable (.usual "a") elected :=
  (reachable_started.exchanges .epoch 0 rfl rfl (by decide) trivial).exchanges .epoch 0 rfl rfl
    (by decide) trivial

/-- A leader that is cancelled between two renewals gives its record up. -/
theorem release_kept_elected : ∃ w : Solo Nat, Reachable (.usual "a") w ∧ w.Returned ∧
    w.HandsOver (.usual "a") ∧ w.Elected (.usual "a") ∧ w.Vacated := by
  have cancelled := reachable_elected.meets .epoch .cancel trivial (by simp) (by simp)
  have stopping := cancelled.meets .epoch (.hear .cancelled) rfl (by simp) (by simp)
  have releasing := stopping.meets .epoch (.hear (.workEnded false)) rfl (by simp) (by simp)
  have idle := releasing.exchanges .epoch 1 rfl rfl (by decide) trivial
  generalize world : exchange _ _ _ 1 = w at idle
  have returned : w.Returned := by
    subst world
    decide
  have had : w.Elected (.usual "a") := by
    subst world
    decide
  have answered : ∀ asking ∈ w.askings, asking.heard = true := by
    subst world
    decide
  have free : ¬ w.Overtaken := by
    rintro ⟨asking, ⟨among, unheard, -⟩, -⟩
    cases (answered asking among).symm.trans unheard
  have kept := release_kept rfl idle returned
  exact ⟨w, idle, returned, kept, had, kept.vacates had free⟩

/-- A run returned as cancelled, every call has taken effect, and the participant holds the
record still. -/
structure LeftHeld (c : ElectionConfig) (w : Solo τ) : Prop where
  releases : c.releaseOnCancel = true
  reachable : Reachable c w
  returned : w.Returned
  settled : w.Settled
  holds : w.Holds c

/-- A leader that is cancelled while the store has written its renewal but not yet answered. -/
theorem release_left_held : ∃ w : Solo Nat, w.LeftHeld (.usual "a") ∧ w.Elected (.usual "a") ∧
    w.Overtaken := by
  have due := reachable_elected.waits (ElectionConfig.usual "a").retryPeriod.nanoseconds
  have renewing := due.meets .epoch (.hear .timer) trivial (fun calls => calls.elim) (by simp)
  have applied := renewing.serves [] _ _ 1 rfl rfl (by decide)
  have cancelled := applied.meets .epoch .cancel trivial (by simp) (by simp)
  have stopping := cancelled.meets .epoch (.hear .cancelled) rfl (by simp) (by simp)
  have releasing := stopping.meets .epoch (.hear (.workEnded false)) rfl (by simp) (by simp)
  have idle := releasing.exchanges .epoch 2 rfl rfl (by decide) trivial
  exact ⟨_, ⟨rfl, idle, by decide, by decide, _, rfl, by decide⟩, by decide,
    _, ⟨.tail _ List.mem_cons_self, rfl, _, rfl, rfl⟩, trivial, rfl⟩

/-- A claim that is given up may take effect afterwards, and whoever is cancelled before it has
claimed its record anew leaves the record as it found it. -/
theorem exists_held_unelected :
    (∃ w : Solo Nat, w.LeftHeld (.usual "a") ∧ ¬ w.Elected (.usual "a") ∧ w.Strayed) ∧
      ∃ w : Solo Nat, w.LeftHeld (.usual "a") ∧ ¬ w.Elected (.usual "a") ∧
        w.versions = w.before := by
  constructor
  · have claiming := reachable_started.exchanges .epoch 0 rfl rfl (by decide) trivial
    have cancelled := claiming.meets .epoch .cancel trivial (by simp) (by simp)
    have idle := cancelled.meets .epoch (.hear .cancelled) rfl (by simp) (by simp)
    have applied := idle.serves [] _ _ 0 rfl rfl (by decide)
    exact ⟨_, ⟨rfl, applied, by decide, by decide, _, rfl, by decide⟩, by decide,
      _, ⟨List.mem_cons_self, rfl, _, rfl, rfl⟩, .inl trivial⟩
  · have anew := reachable_elected.meets .epoch .restart trivial (by simp) (by simp)
    have reading := anew.meets .epoch (.start false) rfl (by simp) (by simp)
    have answered := reading.serves [] _ _ 1 rfl rfl (by decide)
    have cancelled := answered.meets .epoch .cancel trivial (by simp) (by simp)
    have idle := cancelled.meets .epoch (.hear .cancelled) rfl (by simp) (by simp)
    exact ⟨_, ⟨rfl, idle, by decide, by decide, _, rfl, by decide⟩, by decide, rfl⟩

end Solo

end LeaseElection
