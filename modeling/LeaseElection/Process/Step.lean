import LeaseElection.Process.Basic

/-!
# Reactions of a process

What a process does about answers, alarms and interruptions. A leader's workload ends as soon as it
is told to. An election that ends within the startup makes the startup fail; afterwards the process
ends with its election, well if it was told to end and badly if the lease was lost.
-/
namespace LeaseElection

inductive ProcessSignal where
  | answered (answer : StoreAnswer Token)
  | alarm
  | due
  | look (up : Bool)
  | interrupted
  deriving Repr

namespace ProcessSignal

def earliest : Option (Nat × ProcessSignal) → Option (Nat × ProcessSignal) →
    Option (Nat × ProcessSignal)
  | some a, some b => if b.1 < a.1 then some b else some a
  | some a, none => some a
  | none, b => b

end ProcessSignal

namespace Process

open ProcessSignal (earliest)

def moment (p : Process) (now : Nat) (wall : Instant) : Moment := ⟨now, wall, p.cancelled⟩

def perform (p : Process) : Effect Token → Process
  | .call call => { p with call := some call, begun := p.begun + 1 }
  | .abandon => { p with call := none }
  | .publish status => { p with endpoint := (p.endpoint.follow status).2 }
  | .count metric => { p with metrics := p.metrics.add metric p.config.key.text 1 }
  | .gauge leading =>
    { p with metrics := p.metrics.write .isLeader p.config.key.text (if leading then 1 else 0) }
  | .returned outcome => { p with outcome := some outcome }
  | .hook _ | .cancelWork | .log _ => p

def carryOut (p : Process) (turn : Turn Token) : Process :=
  turn.effects.foldl perform { p with elector := turn.elector }

/-- Gives a signal to the elector. If that makes it wait for the end of its workload, it does not
have to wait for long. -/
def tell (p : Process) (now : Nat) (wall : Instant) (signal : Signal Token) : Process :=
  let p := p.carryOut (p.elector.step p.config (p.moment now wall) signal)
  match p.elector.stage with
  | .stopping .. =>
    p.carryOut (p.elector.step p.config (p.moment now wall) (.workEnded false))
  | _ => p

def cancel (p : Process) (now : Nat) (wall : Instant) : Process :=
  if p.cancelled then p
  else
    let p := { p with cancelled := true, endpoint := p.endpoint.stop, monitor := none }
    if p.elector.stage.HeedsCancel then p.tell now wall .cancelled else p

def report (p : Process) (health : Health) : Process :=
  { p with endpoint := (p.endpoint.heed health).2 }

def withdraw (p : Process) (now : Nat) (wall : Instant) : Process :=
  { (p.report .bad).cancel now wall with
    stage := .withdrawing (now + (grace p.config).nanoseconds) }

def passEndpoint (p : Process) (now : Nat) (wall : Instant) : Process :=
  match p.stage with
  | .watchingEndpoint due =>
    if !p.endpoint.running then p.withdraw now wall
    else if due ≤ now then { p with stage := .watchingElection (now + Startup.window.nanoseconds) }
    else p
  | _ => p

/-- Goes on when the election has been watched: with the monitor, if there is a link. -/
def passElection (p : Process) (now : Nat) (wall : Instant) : Process :=
  match p.stage with
  | .watchingElection due =>
    if p.outcome.isSome then p.withdraw now wall
    else if now < due then p
    else if p.linked then
      { p with
        monitor := some ⟨now, true⟩
        stage := .watchingMonitor (now + Startup.window.nanoseconds) }
    else { p.report .good with stage := .serving }
  | _ => p

def passMonitor (p : Process) (now : Nat) (wall : Instant) : Process :=
  match p.stage with
  | .watchingMonitor due =>
    if p.cancelled then p.withdraw now wall
    else if due ≤ now then { p.report .good with stage := .serving }
    else p
  | _ => p

def conclude (p : Process) (now : Nat) (wall : Instant) : Process :=
  match p.stage, p.outcome with
  | .serving, some outcome =>
    let status := match outcome with
      | .cancelled => ExitStatus.success
      | .leadershipLost => .failure
    { (p.report .bad).cancel now wall with stage := .ended status }
  | .withdrawing _, some _ => { p with stage := .ended .failure }
  | .withdrawing due, none => if due ≤ now then { p with stage := .ended .failure } else p
  | _, _ => p

def proceed (p : Process) (now : Nat) (wall : Instant) : Process :=
  (((p.passEndpoint now wall).passElection now wall).passMonitor now wall).conclude now wall

/-- What comes up next for a process by itself, and when, given whether the link is up. -/
def next? (p : Process) (up : Bool) : Option (Nat × ProcessSignal) :=
  earliest ((p.elector.alarm? p.config).map (·, .alarm))
    (earliest (p.monitor.map fun m => (m.next, .look up)) (p.stage.due?.map (·, .due)))

def start (p : Process) (now : Nat) (wall : Instant) : Process :=
  (p.tell now wall .start).proceed now wall

def look (p : Process) (now : Nat) (up : Bool) : Process :=
  match p.monitor with
  | none => p
  | some monitor =>
    let p := if up = monitor.sawUp then p else p.report (if up then .good else .bad)
    { p with monitor := some ⟨now + LinkMonitor.period.nanoseconds, up⟩ }

def react (p : Process) (now : Nat) (wall : Instant) (signal : ProcessSignal) : Process :=
  let p := match signal with
    | .answered answer => { p with call := none }.tell now wall (.answered answer)
    | .alarm => p.tell now wall .timer
    | .due => p
    | .look up => p.look now up
    | .interrupted => p.cancel now wall
  p.proceed now wall

end Process

end LeaseElection
