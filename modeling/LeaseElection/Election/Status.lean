import LeaseElection.Json.Printer

namespace LeaseElection

/-- Where the control loop is. -/
inductive ElectionPhase where
  | idle
  | acquiring
  | leading
  | renewing
  | releasing
  deriving DecidableEq, Repr

def ElectionPhase.text : ElectionPhase → String
  | .idle => "idle"
  | .acquiring => "acquiring"
  | .leading => "leading"
  | .renewing => "renewing"
  | .releasing => "releasing"

def ElectionPhase.all : List ElectionPhase := [.idle, .acquiring, .leading, .renewing, .releasing]

def ElectionPhase.ofText? (text : String) : Option ElectionPhase :=
  ElectionPhase.all.find? fun phase => phase.text = text

/-- What a participant publishes about itself. -/
structure ElectionStatus where
  identity : String
  phase : ElectionPhase
  /-- The holder last seen in the record, if there was one. -/
  leader : Option String
  deriving DecidableEq, Repr

namespace ElectionStatus

def initial (identity : String) : ElectionStatus := ⟨identity, .idle, none⟩

def IsLeader (s : ElectionStatus) : Prop := s.phase = .leading ∨ s.phase = .renewing

instance (s : ElectionStatus) : Decidable s.IsLeader :=
  inferInstanceAs (Decidable (s.phase = .leading ∨ s.phase = .renewing))

def json (s : ElectionStatus) : Json.Value :=
  .object [
    ("identity", .string s.identity),
    ("phase", .string s.phase.text),
    ("leader", match s.leader with | some leader => .string leader | none => .null)]

end ElectionStatus

/-- Why a run of an election ended. -/
inductive ElectionOutcome where
  | cancelled
  /-- The renew deadline passed, or somebody else was found to hold the lease. -/
  | leadershipLost
  deriving DecidableEq, Repr

def ElectionOutcome.text : ElectionOutcome → String
  | .cancelled => "Cancelled"
  | .leadershipLost => "LeadershipLost"

end LeaseElection
