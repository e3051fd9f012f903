import LeaseElection.Bucket.Reach
import LeaseElection.Lock.Memory
import LeaseElection.Process.Launch

/-!
# Trials of a process

A process from its start to its end, in reach of a broker or not, with a script of what is asked of
it and done to it meanwhile. Only waiting and requests to the broker take time. Where an answer and
an alarm come due at one instant, the answer is first.
-/
namespace LeaseElection.Rehearsal

/-- The answer to a store call, and when it arrives. -/
structure Reply where
  due : Nat
  number : Nat
  answer : StoreAnswer Token
  deriving Repr

inductive TrialStage where
  | starting
  | running (launched : Launched) (reply : Option Reply)
  | ended (status : ExitStatus)

structure Trial where
  site : LaunchSite
  arguments : List String
  environment : List (String × String)
  broker : Option BucketHost
  up : Bool
  memory : MemoryStore
  wallStart : Int
  now : Nat
  stage : TrialStage

inductive Awaited where
  | health (health : Health)
  | phase (phase : ElectionPhase)
  deriving DecidableEq, Repr

/-- What is asked of a process or done to it. -/
inductive TrialAct where
  | await (what : Awaited)
  | request (path : String)
  | interrupt
  | change (change : BucketChange)
  | sever
  | restore
  deriving DecidableEq, Repr

inductive TrialAnswer where
  | came (yes : Bool)
  | responded (response : Option Response)
  | done
  deriving Repr

namespace Trial

def wall (t : Trial) : Instant := (Instant.ofNanoseconds? (t.wallStart + t.now)).getD Instant.epoch

def answer (t : Trial) (launched : Launched) (call : StoreCall Token) :
    StoreAnswer Token × Nat × Trial :=
  let key := launched.process.config.key
  match launched.timeLimit, t.broker with
  | some timeLimit, some broker =>
    let ((answer, time), broker) := broker.call timeLimit t.up key call
    (answer, time, { t with broker := some broker })
  | _, _ =>
    let (answer, memory) := t.memory.call key call
    (answer, 0, { t with memory })

/-- Goes on with a process after it has reacted: its store call is answered, and the trial ends with
it. -/
def follow (t : Trial) (launched : Launched) (reply : Option Reply) : Trial :=
  let p := launched.process
  match p.stage, p.call with
  | .ended status, _ => { t with stage := .ended status }
  | _, none => { t with stage := .running launched none }
  | _, some call =>
    match reply.filter fun r => r.number = p.begun with
    | some reply => { t with stage := .running launched (some reply) }
    | none =>
      let (answer, time, t) := t.answer launched call
      { t with stage := .running launched (some ⟨t.now + time, p.begun, answer⟩) }

def launch (t : Trial) : Trial :=
  let inReach := if t.up then t.broker else none
  let (result, broker) := t.site.launch t.arguments t.environment inReach t.now
  let t := { t with broker := broker <|> t.broker }
  match result with
  | .ok launched =>
    t.follow { launched with process := launched.process.start t.now t.wall } none
  | .error fault => { t with stage := .ended fault.status }

def next? (p : Process) (reply : Option Reply) (up : Bool) : Option (Nat × ProcessSignal) :=
  ProcessSignal.earliest (reply.map fun r => (r.due, .answered r.answer)) (p.next? up)

def signal (t : Trial) (launched : Launched) (reply : Option Reply) (s : ProcessSignal) : Trial :=
  t.follow { launched with process := launched.process.react t.now t.wall s } reply

def advance (t : Trial) : Trial :=
  match t.stage with
  | .starting => t.launch
  | .ended _ => t
  | .running launched reply =>
    match next? launched.process reply t.up with
    | some (due, s) => { t with now := max t.now due }.signal launched reply s
    | none => t

def request (t : Trial) (path : String) : Option Response :=
  match t.stage with
  | .running launched _ =>
    launched.process.endpoint.answer launched.process.metrics (t.now / Duration.nanosPerSecond) .get path
  | _ => none

def Shows (t : Trial) (what : Awaited) : Prop :=
  match t.stage with
  | .running launched _ =>
    let e := launched.process.endpoint
    e.running = true ∧
      match what with
      | .health health => e.health = health
      | .phase phase => e.status.phase = phase
  | _ => False

instance (t : Trial) (what : Awaited) : Decidable (t.Shows what) := by
  unfold Shows; split
  · cases what <;> exact inferInstanceAs (Decidable (_ ∧ _))
  · infer_instance

def status? (t : Trial) : Option ExitStatus :=
  match t.stage with
  | .ended status => some status
  | _ => none

/-- Waits until the endpoint shows something, or the process has ended; for so many events at
most. -/
def await (t : Trial) (what : Awaited) : Nat → Bool × Trial
  | 0 => (false, t)
  | patience + 1 =>
    if t.Shows what then (true, t)
    else if t.status?.isSome then (false, t)
    else t.advance.await what patience

def finish (t : Trial) : Nat → Trial
  | 0 => t
  | patience + 1 => if t.status?.isSome then t else t.advance.finish patience

def patience : Nat := 100000

def enact (t : Trial) : TrialAct → TrialAnswer × Trial
  | .await what => let (yes, t) := t.await what patience; (.came yes, t)
  | .request path => (.responded (t.request path), t)
  | .interrupt =>
    (.done, match t.stage with
      | .running launched reply => t.signal launched reply .interrupted
      | _ => t)
  | .change change => (.came true, { t with broker := t.broker.map fun b => b.change change })
  | .sever => (.done, { t with up := false })
  | .restore => (.done, { t with up := true })

def play (t : Trial) : List TrialAct → List TrialAnswer × Trial
  | [] => ([], t)
  | act :: rest =>
    let (answer, t) := t.enact act
    let (answers, t) := t.play rest
    (answer :: answers, t)

end Trial

end LeaseElection.Rehearsal
