namespace LeaseElection

/-- What is measured about an election. -/
inductive Metric where
  | isLeader
  | acquisitions
  | abdications
  | renewFailures
  | releaseFailures
  | changesObserved
  deriving DecidableEq, Repr

namespace Metric

def all : List Metric :=
  [.abdications, .acquisitions, .isLeader, .changesObserved, .releaseFailures, .renewFailures]

def name : Metric → String
  | .isLeader => "leader_election_is_leader"
  | .acquisitions => "leader_election_acquisitions"
  | .abdications => "leader_election_abdications"
  | .renewFailures => "leader_election_renew_failures"
  | .releaseFailures => "leader_election_release_failures"
  | .changesObserved => "leader_election_leader_changes_observed"

def help : Metric → String
  | .isLeader => "1 while this process holds the lease"
  | .acquisitions => "count of times this process became leader"
  | .abdications => "count of times leadership was lost after missing the renew deadline"
  | .renewFailures => "count of failed renewal attempts"
  | .releaseFailures => "count of failed release writes"
  | .changesObserved => "count of new leaders observed"

def IsCounter (m : Metric) : Prop := m ≠ .isLeader

instance (m : Metric) : Decidable m.IsCounter := inferInstanceAs (Decidable (m ≠ .isLeader))

end Metric

/-- The readings of all series that were ever written, by metric and election. -/
structure Metrics where
  readings : List ((Metric × String) × Int)
  deriving DecidableEq, Repr

namespace Metrics

def empty : Metrics := ⟨[]⟩

/-- The reading of a series; a series never written reads zero. -/
def read (m : Metrics) (metric : Metric) (election : String) : Int :=
  (m.readings.lookup (metric, election)).getD 0

def write (m : Metrics) (metric : Metric) (election : String) (value : Int) : Metrics :=
  ⟨((metric, election), value) :: m.readings.filter (fun r => r.1 ≠ (metric, election))⟩

/-- Adds to a series of a counter. Counters hold 64 bits and start again at zero when they are full. -/
def add (m : Metrics) (metric : Metric) (election : String) (amount : Nat) : Metrics :=
  m.write metric election ((m.read metric election + amount) % UInt64.size)

/-- The elections for which a metric was written, in the order of their names. -/
def elections (m : Metrics) (metric : Metric) : List String :=
  ((m.readings.filter fun r => r.1.1 = metric).map fun r => r.1.2).mergeSort fun a b => a ≤ b

end Metrics

end LeaseElection
