import LeaseElection.Election.Status
import LeaseElection.Endpoint.Response
import LeaseElection.Host.Log
import LeaseElection.Host.Task
import LeaseElection.Time.Duration

namespace LeaseElection.Startup

inductive WithdrawalAct where
  /-- The health is reported to a receiver that is still there. -/
  | report (health : Health)
  | cancel
  | await
  | abort
  deriving DecidableEq, Repr

structure Withdrawal where
  failure : Failure
  acts : List WithdrawalAct
  time : Nat
  finished : Bool
  logs : List LogLine
  deriving Repr

/-- What every withdrawal begins with. The receiver of the health may be gone already. -/
def opening (receiver : Bool) : List WithdrawalAct :=
  (if receiver then [.report .bad] else []) ++ [.cancel]

/-- Withdraws from a startup at a time, when a look at the election says whether it has ended. -/
def withdrawSeeing (ended : Bool) (failure : Failure) (election : TaskCourse ElectionOutcome)
    (grace : Duration) (receiver : Bool) (start : Nat) : Withdrawal :=
  if ended then ⟨failure, opening receiver, start, true, []⟩
  else
    match election.await (some start) start grace.nanoseconds with
    | (some (.ok _), time) => ⟨failure, opening receiver ++ [.await], time, true, []⟩
    | (some (.error _), time) =>
      ⟨failure, opening receiver ++ [.await], time, true,
        [.error "election task failed during shutdown"]⟩
    | (none, time) =>
      ⟨failure, opening receiver ++ [.await, .abort], time, false,
        [.warn "election did not stop after failed startup, aborting"]⟩

/-- Withdraws from a startup at a time. An election that ends at that very time has not ended yet.
-/
def withdraw (failure : Failure) (election : TaskCourse ElectionOutcome) (grace : Duration)
    (receiver : Bool) (start : Nat) : Withdrawal :=
  withdrawSeeing ((election.outcome? (some start)).any fun o => o.1 < start) failure election grace
    receiver start

def Withdrawal.reported? (w : Withdrawal) : Option Health :=
  w.acts.findSome? fun
    | .report health => some health
    | _ => none

end LeaseElection.Startup
