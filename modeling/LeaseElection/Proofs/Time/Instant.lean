import LeaseElection.Time.Instant

namespace LeaseElection.Instant

variable {t later other : Instant} {n : Nat} {i j : Int}

/-- The instant is so many nanoseconds from the start of 1970, and in no leap second. -/
def Marks (t : Instant) (nanoseconds : Int) : Prop :=
  ¬ t.InLeapSecond ∧ t.nanoseconds = nanoseconds

theorem marks_self (ordinary : ¬ t.InLeapSecond) : t.Marks t.nanoseconds := ⟨ordinary, rfl⟩

theorem Marks.lt_iff (marks : t.Marks i) (otherMarks : other.Marks j) : t < other ↔ i < j := by
  obtain ⟨ordinary, rfl⟩ := marks
  obtain ⟨otherOrdinary, rfl⟩ := otherMarks
  unfold InLeapSecond at ordinary otherOrdinary
  rw [lt_def, nanoseconds, nanoseconds]
  omega

/-- A number of nanoseconds is that of at most one instant. -/
theorem Marks.unique (marks : t.Marks i) (otherMarks : other.Marks i) : t = other := by
  obtain ⟨ordinary, rfl⟩ := marks
  obtain ⟨otherOrdinary, same⟩ := otherMarks
  obtain ⟨seconds, nanos⟩ := t
  obtain ⟨otherSeconds, otherNanos⟩ := other
  unfold InLeapSecond at ordinary otherOrdinary
  unfold nanoseconds at same
  dsimp only at ordinary otherOrdinary same
  rw [mk.injEq]
  omega

theorem Marks.bounds (marks : t.Marks i) :
    -8334601228800000000000 ≤ i ∧ i ≤ 8210266876799999999999 := by
  obtain ⟨ordinary, rfl⟩ := marks
  have first := t.first_le
  have last := t.le_last
  unfold InLeapSecond at ordinary
  unfold nanoseconds
  omega

theorem last_marks : last.Marks 8210266876799999999999 := ⟨by decide, rfl⟩

theorem not_last_lt (ordinary : ¬ t.InLeapSecond) : ¬ last < t := by
  have bounds := (marks_self ordinary).bounds
  rw [last_marks.lt_iff (marks_self ordinary)]
  omega

theorem exists_marks_iff :
    (∃ t : Instant, t.Marks i) ↔ -8334601228800000000000 ≤ i ∧ i ≤ 8210266876799999999999 := by
  constructor
  · rintro ⟨t, marks⟩
    exact marks.bounds
  · rintro ⟨first, last⟩
    have nanos : (i % 1000000000).toNat < 1000000000 := by omega
    have split : i / 1000000000 * 1000000000 + ((i % 1000000000).toNat : Int) = i := by omega
    refine ⟨⟨i / 1000000000, (i % 1000000000).toNat, ?_, ?_, ?_, ?_⟩, Nat.not_le_of_lt nanos, split⟩
      <;> omega

theorem ofParts?_eq_some_iff {seconds : Int} {nanos : Nat} (ordinary : nanos < 1000000000) :
    ofParts? seconds nanos = some t ↔ t.Marks (seconds * 1000000000 + nanos) := by
  unfold ofParts?
  split
  next within =>
    rw [Option.some_inj]
    have marks : Marks ⟨seconds, nanos, within.1, within.2.1, within.2.2.1, within.2.2.2⟩
        (seconds * 1000000000 + nanos) := ⟨Nat.not_le_of_lt ordinary, rfl⟩
    exact ⟨fun same => same ▸ marks, fun also => marks.unique also⟩
  next beyond =>
    refine ⟨nofun, fun marks => absurd ?_ beyond⟩
    have bounds := marks.bounds
    refine ⟨?_, ?_, ?_, ?_⟩ <;> omega

theorem addSeconds?_eq_some_iff (ordinary : ¬ t.InLeapSecond) :
    t.addSeconds? n = some later ↔ later.Marks (t.nanoseconds + n * 1000000000) := by
  have below : t.nanos < 1000000000 := Nat.lt_of_not_le ordinary
  unfold addSeconds?
  split
  next zero =>
    rw [Option.some_inj, zero, Int.natCast_zero, Int.zero_mul, Int.add_zero]
    have marks := marks_self ordinary
    exact ⟨fun same => same ▸ marks, fun also => marks.unique also⟩
  next =>
    have sum : (t.seconds + n) * 1000000000 + (t.nanos : Int) =
        t.nanoseconds + n * 1000000000 := by
      unfold nanoseconds
      omega
    rw [Nat.mod_eq_of_lt below, ofParts?_eq_some_iff below, sum]

/-- No instant is further from another than the longest span of time. -/
theorem afterSeconds?_eq_some_iff (ordinary : ¬ t.InLeapSecond) :
    t.afterSeconds? n = some later ↔ later.Marks (t.nanoseconds + n * 1000000000) := by
  unfold afterSeconds?
  split
  next => exact addSeconds?_eq_some_iff ordinary
  next long =>
    refine ⟨nofun, fun marks => absurd ?_ long⟩
    have bounds := (marks_self ordinary).bounds
    have laterBounds := marks.bounds
    have span : longestSpan = 9223372036854775 := rfl
    omega

end LeaseElection.Instant
