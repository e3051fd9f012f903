import LeaseElection.Election.Config

namespace LeaseElection

namespace ElectionConfig

/-- The rules for a configuration: the record has a name, and each of the timings, from the retry
period up to the lease, is longer than the one before. -/
structure InOrder (c : ElectionConfig) : Prop where
  named : ∃ glyph ∈ c.name.toList, Text.isBlank glyph = false
  positive : 0 < c.retryPeriod.nanoseconds
  retries : c.retryPeriod.nanoseconds < c.renewDeadline.nanoseconds
  outlasts : c.renewDeadline.nanoseconds < c.lease.nanoseconds

/-- Twice the retry period is a duration. -/
def Doubles (c : ElectionConfig) : Prop :=
  2 * c.retryPeriod.nanoseconds ≤ Duration.max.nanoseconds

theorem allBlank_iff {s : String} :
    Text.AllBlank s ↔ ¬ ∃ glyph ∈ s.toList, Text.isBlank glyph = false := by
  simp [Text.AllBlank]

end ElectionConfig

/-- What a refusal says of the configuration is true of it, and against the rules. -/
def ConfigError.Blames (c : ElectionConfig) : ConfigError → Prop
  | .nameRequired => ¬ ∃ glyph ∈ c.name.toList, Text.isBlank glyph = false
  | .retryPeriodZero => c.retryPeriod.nanoseconds = 0
  | .renewDeadlineTooShort renewDeadline retryPeriod =>
      renewDeadline = c.renewDeadline ∧ retryPeriod = c.retryPeriod ∧
        renewDeadline.nanoseconds ≤ retryPeriod.nanoseconds
  | .leaseTooShort lease renewDeadline =>
      lease = c.lease ∧ renewDeadline = c.renewDeadline ∧
        lease.nanoseconds ≤ renewDeadline.nanoseconds
  | _ => False

namespace ElectionConfig

variable {c : ElectionConfig} {e : ConfigError}

theorem not_inOrder_of_blames (blames : e.Blames c) : ¬ c.InOrder := by
  intro inOrder
  obtain ⟨named, positive, retries, outlasts⟩ := inOrder
  cases e with
  | nameRequired => exact blames named
  | retryPeriodZero => exact absurd blames (Nat.ne_of_gt positive)
  | renewDeadlineTooShort renewDeadline retryPeriod =>
      obtain ⟨rfl, rfl, short⟩ := blames
      omega
  | leaseTooShort lease renewDeadline =>
      obtain ⟨rfl, rfl, short⟩ := blames
      omega
  | _ => exact blames

theorem not_isCrash_of_blames (blames : e.Blames c) : ¬ e.IsCrash := by
  rintro rfl
  exact blames

/-- What the check can come to. -/
inductive Verdict (c : ElectionConfig) : Except ConfigError Unit → Prop
  | accepted (inOrder : c.InOrder) (doubles : c.Doubles) : Verdict c (.ok ())
  | crashed (inOrder : c.InOrder) (overflow : ¬ c.Doubles) : Verdict c (.error .retryPeriodOverflow)
  | refused (e : ConfigError) (blames : e.Blames c) : Verdict c (.error e)

theorem validate_verdict (c : ElectionConfig) : Verdict c c.validate := by
  unfold validate
  split
  next blank => exact .refused _ (allBlank_iff.mp blank)
  next unblank =>
    have named := Classical.not_not.mp (mt allBlank_iff.mpr unblank)
    split
    next zero => exact .refused _ (congrArg Duration.nanoseconds zero)
    next nonzero =>
      have positive : 0 < c.retryPeriod.nanoseconds :=
        Nat.pos_of_ne_zero fun zero => nonzero (by rw [← zero])
      split
      next short => exact .refused _ ⟨rfl, rfl, short⟩
      next retries =>
        split
        next short => exact .refused _ ⟨rfl, rfl, short⟩
        next outlasts =>
          have inOrder : c.InOrder :=
            ⟨named, positive, Nat.lt_of_not_le retries, Nat.lt_of_not_le outlasts⟩
          split
          next overflow => exact .crashed inOrder (Nat.not_le_of_lt overflow)
          next fits => exact .accepted inOrder (Nat.le_of_not_lt fits)

/-- The check accepts exactly what keeps the rules, refuses exactly what breaks one and says which,
and warns exactly of what it accepts with less than two retry periods to the deadline. It fails
itself exactly where the rules are kept and twice the retry period is longer than any duration. -/
theorem validation_kept (c : ElectionConfig) :
    (c.validate = .ok () ↔ c.InOrder ∧ c.Doubles) ∧
    ((∃ e, c.validate = .error e ∧ ¬ e.IsCrash ∧ e.Blames c) ↔ ¬ c.InOrder) ∧
    ((∃ e, c.validate = .error e ∧ e.IsCrash) ↔ c.InOrder ∧ ¬ c.Doubles) ∧
    (c.warnings = [tightWarning] ↔ c.validate = .ok () ∧
      c.renewDeadline.nanoseconds < 2 * c.retryPeriod.nanoseconds) ∧
    (c.warnings = [] ↔ ¬ (c.validate = .ok () ∧
      c.renewDeadline.nanoseconds < 2 * c.retryPeriod.nanoseconds)) := by
  have verdict := c.validate_verdict
  unfold warnings
  generalize c.validate = outcome at verdict ⊢
  cases verdict with
  | accepted inOrder doubles =>
      refine ⟨by simp [inOrder, doubles], by simp [inOrder], by simp [doubles], ?_⟩
      by_cases tight : c.IsTight
      · have short : c.renewDeadline.nanoseconds < 2 * c.retryPeriod.nanoseconds := tight
        simp [tight, short]
      · have long : ¬ c.renewDeadline.nanoseconds < 2 * c.retryPeriod.nanoseconds := tight
        simp [tight, long]
  | crashed inOrder overflow =>
      have crash : ConfigError.IsCrash .retryPeriodOverflow := rfl
      exact ⟨by simp [overflow], by simp [inOrder, crash], by simp [inOrder, overflow, crash],
        by simp, by simp⟩
  | refused e blames =>
      have broken := not_inOrder_of_blames blames
      have kind := not_isCrash_of_blames blames
      exact ⟨by simp [broken], by simp [broken, blames, kind], by simp [broken, kind], by simp,
        by simp⟩

/-- Timings of thousands of millions of years that are in order, and that the check fails to judge. -/
theorem validation_crashes : ∃ c : ElectionConfig,
    c.lease.nanoseconds ≤ Duration.max.nanoseconds ∧ c.InOrder ∧
      ∃ e, c.validate = .error e ∧ e.IsCrash := by
  refine ⟨{ ElectionConfig.default with
    name := "x"
    lease := .max
    renewDeadline := .ofSeconds 9223372036854775809
    retryPeriod := .ofSeconds 9223372036854775808 }, Nat.le_refl _, ⟨?_, ?_, ?_, ?_⟩, ?_⟩
  · exact ⟨'x', by decide, by decide⟩
  · decide
  · decide
  · decide
  · exact ⟨.retryPeriodOverflow, rfl, rfl⟩

end ElectionConfig

end LeaseElection
