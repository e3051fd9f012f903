import LeaseElection.Proofs.Course.Showing

namespace LeaseElection

/-- A version of the record as some participant claimed it. -/
def Versioned.claimed (holder : String) (token : Nat) : Versioned Nat :=
  ⟨.claimed holder ElectionConfig.default.lease .epoch, token⟩

namespace Course

variable [DecidableEq τ] {c : ElectionConfig} {pace : Pace} {log : Trace τ} {k : Course τ}

/-- The latest run has reported every other holder that it read while acquiring, but for repeats, and
once it is over also the successor that it met while it led. A report names another participant, and
that of a successor comes after leading has stopped. -/
theorem reports_kept (chronicle : Chronicle c pace log k) :
    (view c log).reports = (view c log).sought.destutter (· ≠ ·) ++
        (if (view c log).running then [] else (view c log).met) ∧
      (view c log).met.length ≤ 1 ∧
      ∀ leader past, .did (.hook (.newLeader leader)) :: past <:+ log →
        leader ≠ "" ∧ leader ≠ c.identity ∧
          ((view c past).met ≠ [] → (view c past).stopped = true) := by
  have appears := chronicle.appears
  obtain ⟨reported, once⟩ := appears.displays.reported
  exact ⟨reported, once, fun leader past within => appears.seemly.permitted _ past within⟩

/-- The lease is lost to the participant that was seen before it was won, which is reported again. -/
theorem reports_kept_again : ∃ (log : Trace Nat) (k : Course Nat),
    Chronicle (.usual "a") ⟨false, false⟩ log k ∧
      (view (.usual "a") log).outcome = some .leadershipLost ∧
        (view (.usual "a") log).reports = ["b"] ++ ["b"] ∧
          (view (.usual "a") log).met.length ≤ 1 := by
  have idle : Chronicle (.usual "a") ⟨false, false⟩ [] (_ : Course Nat) := .initial 0
  have reading := idle.move .epoch (.start false) rfl
  have waiting := (reading.move .epoch (.hear (.answered (.found (.claimed "b" 1)))) trivial).pass
    2000000000 ⟨nofun, nofun⟩
  have rereading := waiting.move .epoch (.hear .timer) trivial
  have claiming := rereading.move .epoch (.hear (.answered (.found (.claimed "" 2)))) trivial
  have leading := (claiming.move .epoch (.hear (.answered (.written 3))) trivial).pass 2000000000
    ⟨nofun, nofun⟩
  have renewing := leading.move .epoch (.hear .timer) trivial
  have refused := renewing.move .epoch
    (.hear (.answered (.failed (.conflict (ElectionConfig.usual "a").key "3")))) trivial
  have stopping := refused.move .epoch (.hear (.answered (.found (.claimed "b" 4)))) trivial
  have lost := stopping.move .epoch (.hear (.workEnded false)) rfl
  obtain ⟨reported, once, -⟩ := reports_kept lost
  exact ⟨_, _, lost, rfl, reported, once⟩

/-- What is published and what is measured go together at every instant, over all the runs, and the
published status is the participant's own. -/
theorem display_kept (chronicle : Chronicle c pace log k) :
    (∀ past, past <:+ log → (view c past).Coherent c) ∧
      k.elector.status = (view c log).status ∧
        ((view c log).running = true ↔ k.elector.IsRunning) := by
  have appears := chronicle.appears
  exact ⟨appears.seemly.coherent, appears.status, appears.displays.running⟩

theorem display_kept_leading : ∃ (log : Trace Nat) (k : Course Nat),
    Chronicle (.usual "a") ⟨true, true⟩ log k ∧ k.elector.IsRunning ∧
      (view (.usual "a") log).status.IsLeader ∧
        (view (.usual "a") log).status.leader = some "a" ∧
          (view (.usual "a") log).gauge (.usual "a") = 1 := by
  have idle : Chronicle (.usual "a") ⟨true, true⟩ [] (_ : Course Nat) := .initial 0
  have reading := idle.move .epoch (.start false) rfl
  have claiming := reading.move .epoch
    (.hear (.answered (.failed (.notFound (ElectionConfig.usual "a").key)))) trivial
  have elected := claiming.move .epoch (.hear (.answered (.written 1))) trivial
  obtain ⟨coherent, -, running⟩ := display_kept elected
  obtain ⟨named, measured⟩ := (coherent _ List.suffix_rfl).leads (.inl rfl)
  exact ⟨_, _, elected, running.mp rfl, .inl rfl, named, measured⟩

end Course

end LeaseElection
