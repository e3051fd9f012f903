import LeaseElection.Election.Metrics
import LeaseElection.Elector.Step
import LeaseElection.Endpoint.Server
import LeaseElection.Startup.Check

namespace LeaseElection

inductive ExitStatus where
  | success
  | failure
  | usage
  /-- The process was cut short before it could say why. -/
  | crashed
  deriving DecidableEq, Repr

def ExitStatus.code : ExitStatus → Nat
  | .success => 0
  | .failure => 1
  | .usage => 2
  | .crashed => 101

inductive ProcessStage where
  | watchingEndpoint (due : Nat)
  | watchingElection (due : Nat)
  /-- The monitor of the link is watched for this long. -/
  | watchingMonitor (due : Nat)
  | serving
  /-- The startup failed, and the election is given this long to end. -/
  | withdrawing (due : Nat)
  | ended (status : ExitStatus)
  deriving DecidableEq, Repr

def ProcessStage.due? : ProcessStage → Option Nat
  | .watchingEndpoint due | .watchingElection due | .watchingMonitor due | .withdrawing due =>
    some due
  | .serving | .ended _ => none

structure LinkMonitor where
  next : Nat
  sawUp : Bool
  deriving DecidableEq, Repr

def LinkMonitor.period : Duration := .ofSeconds 1

/-- A process that takes part in an election. -/
structure Process where
  config : ElectionConfig
  linked : Bool
  elector : Elector Token
  outcome : Option ElectionOutcome
  call : Option (StoreCall Token)
  begun : Nat
  cancelled : Bool
  endpoint : Endpoint
  metrics : Metrics
  monitor : Option LinkMonitor
  stage : ProcessStage
  deriving Repr

namespace Process

def new (config : ElectionConfig) (linked addressTaken : Bool) (now : Nat) : Process where
  config := config
  linked := linked
  elector := .new config.identity
  outcome := none
  call := none
  begun := 0
  cancelled := false
  endpoint := (Endpoint.start (.initial config.identity) addressTaken true).1
  metrics := .empty
  monitor := none
  stage := .watchingEndpoint (now + Startup.window.nanoseconds)

/-- How long an election is given to end after a failed startup: as long as it may take to give up
the lease, and a second more. -/
def grace (c : ElectionConfig) : Duration :=
  ⟨c.renewDeadline.nanoseconds + (Duration.ofSeconds 1).nanoseconds⟩

end Process

end LeaseElection
