import LeaseElection.Rehearsal.World

namespace LeaseElection.Rehearsal

namespace World

def perform (w : World) (index : Nat) (seat : Seat) : Effect Token → World
  | .call call =>
    let (fault, faults) := seat.faults.take call
    (w.setSeat index { seat with faults, call := some ⟨call, fault, .begun⟩ }).noteOf index
      (.called call)
  | .abandon =>
    match seat.call with
    | some pending => (w.setSeat index { seat with call := none }).noteOf index (.dropped pending.call)
    | none => w
  | .publish status => w.setSeat index { seat with status := some status }
  | .hook (.started cancelled) =>
    let w := w.noteOf index (.hooked (.started cancelled))
    let job : Job := ⟨index, seat.run, seat.plan, seat.cancelled, .working, none⟩
    { w with jobs := w.jobs ++ [job] }.wake (.job w.jobs.length)
  | .hook call => if seat.hooks.Handles call then w.noteOf index (.hooked call) else w
  | .cancelWork => w.cancelJobs index seat.run
  | .log line => w.noteOf index (.logged line)
  | .count metric => { w with metrics := w.metrics.add metric w.key.text 1 }
  | .gauge leading =>
    { w with metrics := w.metrics.write .isLeader w.key.text (if leading then 1 else 0) }
  | .returned outcome => w.noteOf index (.returned outcome)

def tell (w : World) (index : Nat) (signal : Signal Token) : World :=
  match w.seats[index]? with
  | none => w
  | some seat =>
    match seat.elector with
    | none => w
    | some (config, elector) =>
      let turn := elector.step config ⟨w.now, w.wall, seat.cancelled⟩ signal
      let (alarm, w) := match turn.elector.alarm? config with
        | some due => let (alarm, w) := w.setAlarm due; (some alarm, w)
        | none => (none, w)
      let w := w.setSeat index { seat with elector := some (config, turn.elector), alarm }
      turn.effects.foldl
        (fun w effect => match w.seats[index]? with
          | some seat => w.perform index seat effect
          | none => w) w

def askStore (w : World) (call : StoreCall Token) : StoreAnswer Token × World :=
  let (answer, store) := w.store.call w.key call
  (answer, { w with store })

def answer (w : World) (index : Nat) (answer : StoreAnswer Token) : World :=
  match w.seats[index]? with
  | none => w
  | some seat =>
    let w := (w.setSeat index { seat with call := none }).noteOf index (.answered answer)
    w.tell index (.answered answer)

def reachStore (w : World) (index : Nat) (pending : PendingCall) : World :=
  let fault := pending.fault
  let stay (w : World) (stage : CallStage) : World := match w.seats[index]? with
    | some seat => w.setSeat index { seat with call := some { pending with stage } }
    | none => w
  let w := if fault.cancels then w.cancelRun index else w
  if fault.hangs then stay w .hanging
  else
    let w := match fault.intrusion with
      | some i => w.intrude (some index) i
      | none => w
    let (real, w) := if fault.Reaches then w.askStore pending.call else (.failed (.notFound w.key), w)
    let answered := match fault.error with
      | some error => .failed error
      | none => real
    if fault.late = 0 then w.answer index answered
    else
      let (alarm, w) := w.setAlarm (w.now + fault.late)
      stay w (.late answered alarm)

def advanceCall (w : World) (index : Nat) (seat : Seat) (pending : PendingCall) : Option World :=
  match pending.stage with
  | .begun =>
    if pending.fault.delay = 0 then some (w.reachStore index pending)
    else
      let (alarm, w) := w.setAlarm (w.now + pending.fault.delay)
      some (w.setSeat index { seat with call := some { pending with stage := .delayed alarm } })
  | .delayed alarm => if alarm.due ≤ w.now then some (w.reachStore index pending) else none
  | .hanging => none
  | .late answered alarm => if alarm.due ≤ w.now then some (w.answer index answered) else none

def endedWork? (w : World) (seat run : Nat) : Option Bool :=
  (w.jobs.find? fun job => job.seat = seat ∧ job.run = run ∧ job.stage = .ended).map
    fun job => job.plan.panics

/-- Lets a participant make one move, if there is anything for it to do: it hears of a cancellation
first, of an answer next, and of its own timer last. -/
def actSeat (w : World) (index : Nat) : Option World := do
  let seat ← w.seats[index]?
  let (_, elector) ← seat.elector
  let onAlarm : Option World := do
    let alarm ← seat.alarm
    if alarm.due ≤ w.now then some (w.tell index .timer) else none
  match w.endedWork? index seat.run, elector.work with
  | some panicked, .running => some (w.tell index (.workEnded panicked))
  | _, _ =>
    if seat.cancelled ∧ elector.stage.HeedsCancel then some (w.tell index .cancelled)
    else
      match seat.call with
      | some pending => w.advanceCall index seat pending <|> onAlarm
      | none => onAlarm

def endJob (w : World) (index : Nat) (job : Job) : World :=
  ((w.setJob index { job with stage := .ended, alarm := none }).noteOf job.seat
    (.workEnded job.cancelled)).wake (.seat job.seat)

def pauseJob (w : World) (index : Nat) (job : Job) (stage : JobStage) (pause : Nat) : World :=
  let (alarm, w) := w.setAlarm (w.now + pause)
  w.setJob index { job with stage, alarm := some alarm }

def actJob (w : World) (index : Nat) : Option World := do
  let job ← w.jobs[index]?
  let due : Bool := job.alarm.any fun alarm => alarm.due ≤ w.now
  match job.stage, job.plan.course with
  | .working, .untilCancelled _ =>
    if job.cancelled then
      some ((w.setJob index { job with stage := .yielding }).wake (.job index))
    else none
  | .yielding, .untilCancelled pause =>
    -- Its leader reacts before it goes on.
    if w.ready.contains (.seat job.seat) then some (w.wake (.job index))
    else if pause = 0 then some (w.endJob index job)
    else some (w.pauseJob index job .closing pause)
  | .closing, _ => if due then some (w.endJob index job) else none
  | .working, .after pause =>
    if job.cancelled ∨ pause = 0 ∨ due then some (w.endJob index job)
    else if job.alarm.isNone then some (w.pauseJob index job .working pause)
    else none
  | _, _ => none

def settle (w : World) (fuel : Nat) : World :=
  match fuel, w.ready with
  | 0, _ | _, [] => w
  | fuel + 1, actor :: rest =>
    let w := { w with ready := rest }
    match actor with
    | .seat index =>
      match w.actSeat index with
      | some w => { w with ready := actor :: w.ready }.settle fuel
      | none => w.settle fuel
    | .job index =>
      match w.actJob index with
      | some w => w.settle fuel
      | none => w.settle fuel

def patience (w : World) : Nat := 100 * (w.seats.length + w.jobs.length + 1)

def alarmsSet (w : World) : List (Alarm × Actor) :=
  let ofSeat (s : Seat) : List Alarm :=
    (match s.call with
      | some ⟨_, _, .delayed alarm⟩ | some ⟨_, _, .late _ alarm⟩ => [alarm]
      | _ => []) ++ s.alarm.toList
  let seats := (w.seats.zipIdx).flatMap fun (s, i) => (ofSeat s).map (·, Actor.seat i)
  let jobs := (w.jobs.zipIdx).flatMap fun (job, i) => job.alarm.toList.map (·, Actor.job i)
  seats ++ jobs

def nextAlarm? (w : World) : Option Nat :=
  ((w.alarmsSet.map fun (alarm, _) => alarm.due).filter (w.now < ·)).min?

def reach (w : World) (now : Nat) : World :=
  let due := w.alarmsSet.filter fun (alarm, _) => alarm.due = now
  let due := due.mergeSort fun a b => a.1.order ≤ b.1.order
  let w := { w with now, ready := w.ready ++ due.map Prod.snd }
  w.settle w.patience

def pass (w : World) (start finish : Nat) : World :=
  match w.nextAlarm? with
  | some due =>
    if start < due ∧ due ≤ finish then (w.reach due).pass due finish else { w with now := finish }
  | none => { w with now := finish }
termination_by finish - start

end World

end LeaseElection.Rehearsal
