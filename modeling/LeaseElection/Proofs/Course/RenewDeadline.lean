import LeaseElection.Proofs.Course.Instants
import LeaseElection.Proofs.Course.Protocol

namespace LeaseElection

namespace Course

variable {τ : Type} {c : ElectionConfig} {pace : Pace} {k : Course τ}

theorem Orderly.secured_of_kept (orderly : k.Orderly c) (wall : Instant) {signal : Signal τ}
    {held : Held τ}
    (expected : ∀ answer, signal = .answered answer → k.elector.stage.Expects answer)
    (kept : Elector.Keeps c.identity k.elector.stage signal held)
    (goesOn : ∀ held reason, k.elector.stage ≠ .stopping held reason) :
    Trace.secured c.identity (.told (k.moment wall) signal :: k.trace) = some held.stamped := by
  have fits := orderly.fits
  rw [← account_secured, account_cons]
  generalize k.elector.stage = s at fits kept goesOn expected
  cases kept with
  | claimed => exact (fits.1.acknowledged fits.2.1).secured
  | holding =>
      have unwritten (token : τ) : signal ≠ .answered (.written token) :=
        fun same => (expected _ same).elim
      exact (Account.OnDuty.told fits unwritten).leading.secured
  | renewed => exact (fits.1.acknowledged fits.2.1 fits.2.2).leading.secured
  | unrenewed unwritten => exact (fits.1.told unwritten).leading.secured
  | refreshed own => exact (Account.OnDuty.told fits (by simp)).leading.secured
  | unrefreshed =>
      have unwritten (token : τ) : signal ≠ .answered (.written token) :=
        fun same => (expected _ same).elim
      exact (Account.OnDuty.told fits unwritten).leading.secured
  | stopping => exact absurd rfl (goesOn _ _)

theorem Orderly.earned_of_kept (orderly : k.Orderly c) (wall : Instant) {signal : Signal τ}
    {held : Held τ}
    (expected : ∀ answer, signal = .answered answer → k.elector.stage.Expects answer)
    (kept : Elector.Keeps c.identity k.elector.stage signal held) :
    Trace.secured c.identity (.told (k.moment wall) signal :: k.trace) ≠ none := by
  by_cases stopping : ∃ held reason, k.elector.stage = .stopping held reason
  · obtain ⟨held, reason, stage⟩ := stopping
    have fits := orderly.fits
    rw [stage] at fits
    have before := fits.1.secured
    rw [account_secured] at before
    exact Trace.secured_told _ _ before
  · rw [orderly.secured_of_kept wall expected kept fun held reason stage =>
      stopping ⟨held, reason, stage⟩]
    simp

theorem Orderly.counts (orderly : k.Orderly c) {held : Held τ}
    (leading : k.elector.stage.held? = some held) :
    Trace.secured c.identity k.trace = some held.stamped := by
  have fits := orderly.fits
  rw [← account_secured]
  generalize k.elector.stage = s at fits leading
  cases s with
  | holding held next | rereading held =>
      cases leading
      exact fits.leading.secured
  | renewing held record started =>
      cases leading
      exact fits.1.leading.secured
  | _ => cases leading

theorem Orderly.leaves (orderly : k.Orderly c) {status : ElectionStatus} {past : Trace τ}
    (happened : .did (.publish status) :: past <:+ k.trace) (leads : Trace.Leads past)
    (left : ¬ status.phase.Leads) : ∃ m signal begun, Trace.told past = some (m, signal) ∧
      Trace.secured c.identity past = some begun ∧
      (m.cancelled = true ∨ begun + c.renewDeadline.nanoseconds ≤ m.now ∨
        signal.Supplants c.identity) := by
  obtain ⟨m, signal, begun, told, secured, cause, cancelled⟩ :=
    (orderly.lawful.licit happened).2 (by rwa [account_phase]) left
  rw [account_told] at told
  rw [account_secured] at secured
  refine ⟨m, signal, begun, told, secured, ?_⟩
  cases lost : (account c.identity past).lost with
  | true =>
      rcases cause.mp lost with supplanted | ⟨-, late⟩
      · exact .inr (.inr supplanted)
      · exact .inr (.inl late)
  | false => exact .inl (cancelled lost)

theorem Orderly.rereads (orderly : k.Orderly c) {past : Trace τ}
    (happened : .did (.call .get) :: past <:+ k.trace) (leads : Trace.Leads past) :
    ∃ m signal, Trace.told past = some (m, signal) ∧ signal.Conflicts := by
  have called := (orderly.lawful.licit happened).2.2
  rw [account_phase, account_told] at called
  exact called leads rfl

theorem Orderly.returns (orderly : k.Orderly c) {outcome : ElectionOutcome} {past : Trace τ}
    (happened : .did (.returned outcome) :: past <:+ k.trace) :
    outcome = .leadershipLost ↔ Trace.Lost c past := by
  have lawful : Lawful c past := (orderly.lawful.tail happened).2
  obtain ⟨-, told, lost⟩ := orderly.lawful.licit happened
  constructor
  · intro same
    exact lawful.lost_of_left (told.mp same)
  · intro forfeited
    exact lost ((account_lost c.identity past).mpr (lawful.saw_of_lost forfeited))

variable [DecidableEq τ]

end Course

end LeaseElection
