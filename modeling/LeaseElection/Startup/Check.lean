import LeaseElection.Election.Status
import LeaseElection.Host.Log
import LeaseElection.Host.Task
import LeaseElection.Time.Duration

namespace LeaseElection.Startup

def window : Duration := .ofMillis 300

/-- What a check found, and when it was done. -/
structure CheckReport where
  result : Except Failure Unit
  time : Nat
  deriving Repr

def watch (course : TaskCourse α) (start : Nat) (describe : TaskEnd α → String) : CheckReport :=
  match course.await none start window.nanoseconds with
  | (none, time) => ⟨.ok (), time⟩
  | (some result, time) => ⟨.error (.ofText (describe result)), time⟩

def checkTask (name : String) (task : TaskCourse Unit) (start : Nat) : CheckReport :=
  watch task start fun
    | .ok _ => name ++ " exited during startup stabilization window"
    | .error fault => name ++ " panicked during startup: " ++ fault.text

def checkElection (election : TaskCourse ElectionOutcome) (start : Nat) : CheckReport :=
  watch election start fun
    | .ok outcome => "election exited during startup stabilization window: " ++ outcome.text
    | .error fault => "election panicked during startup: " ++ fault.text

def CheckReport.within (r : CheckReport) (attempt : String) : CheckReport :=
  { r with result := r.result.mapError fun failure => failure.within attempt }

def checkAll (backend : String) (endpoint : TaskCourse Unit)
    (election : TaskCourse ElectionOutcome) (start : Nat) : CheckReport :=
  let attempt := backend ++ " startup check failed"
  let first := (checkTask "external API" endpoint start).within attempt
  match first.result with
  | .error _ => first
  | .ok _ => (checkElection election first.time).within attempt

end LeaseElection.Startup
