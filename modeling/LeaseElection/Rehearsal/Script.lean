import LeaseElection.Rehearsal.Run

/-!
# Scripts of a rehearsal

What is done to the participants of a rehearsal from outside, and when. Whatever comes due at the
instant of a step happens before it, and all that follows from it at that instant happens before the
next step.
-/
namespace LeaseElection.Rehearsal

inductive Act where
  | start (seat : Nat) (cancelled : Bool)
  | cancel (seat : Nat)
  /-- A participant's run is cut short, and its elector is forgotten. -/
  | kill (seat : Nat)
  | befall (seat : Nat) (faults : FaultQueues)
  | intrude (intrusion : Intrusion)
  | shift (amount : Int)
  | read
  deriving DecidableEq, Repr

structure ScriptStep where
  time : Nat
  act : Act
  deriving DecidableEq, Repr

namespace World

def new (key : RecordKey) (wallStart : Int) (seats : List Seat) : World :=
  ⟨key, 0, wallStart, .empty, .empty, seats, [], 0, [], []⟩

def surroundings : Surroundings := .ofFiles ⟨[]⟩ "host" "id"

def build (w : World) (index : Nat) (seat : Seat) : Except ConfigError Unit × World :=
  let w := seat.config.warnings.foldl (fun w warning => w.note (.logged (.warn warning))) w
  match seat.config.resolve surroundings with
  | .error e => (.error e, w.note (.refused index e))
  | .ok config =>
    let elector := Elector.new config.identity
    let w := w.setSeat index
      { seat with elector := some (config, elector), status := some elector.status }
    (.ok (), w.noteOf index (.built config.identity config.key config.releaseOnCancel))

def startRun (w : World) (index : Nat) (cancelled : Bool) : World :=
  match w.seats[index]? with
  | none => w
  | some seat =>
    let w := w.setSeat index { seat with run := seat.run + 1, cancelled }
    (w.tell index .start).wake (.seat index)

def start (w : World) (index : Nat) (cancelled : Bool) : World :=
  match w.seats[index]? with
  | none => w
  | some seat =>
    if seat.IsRunning then w.note (.busy index)
    else if seat.elector.isSome then w.startRun index cancelled
    else
      match w.build index seat with
      | (.ok _, w) => w.startRun index cancelled
      | (.error _, w) => w

def kill (w : World) (index : Nat) : World :=
  match w.seats[index]? with
  | none => w
  | some seat =>
    let w := w.setSeat index { seat with elector := none, alarm := none, call := none }
    match seat.call with
    | some pending => w.noteOf index (.dropped pending.call)
    | none => w

def enact (w : World) : Act → World
  | .start seat cancelled => w.start seat cancelled
  | .cancel seat => w.cancelRun seat
  | .kill seat => w.kill seat
  | .befall seat faults =>
    match w.seats[seat]? with
    | some s => w.setSeat seat { s with faults := s.faults.append faults }
    | none => w
  | .intrude intrusion => w.intrude none intrusion
  | .shift amount => { w with wallStart := w.wallStart + amount }
  | .read => w.note (.read (w.store.get w.key))

def play (w : World) : List ScriptStep → World
  | [] => w
  | step :: rest =>
    let w := w.pass w.now (max w.now step.time)
    let w := w.enact step.act
    (w.settle w.patience).play rest

end World

/-- Rehearses an election: plays a script, and then lets time pass until the end. -/
def rehearse (w : World) (script : List ScriptStep) (finish : Nat) : World :=
  let w := w.play script
  w.pass w.now (max w.now finish)

end LeaseElection.Rehearsal
