import LeaseElection.Election.Resolution
import LeaseElection.Elector.Step
import LeaseElection.Rehearsal.Fault

/-!
# The world of a rehearsal

Participants over one store in memory, their workloads, and a clock that moves on only when all of
them wait. Whatever happens is written into a log.

Alarms that come due at one instant go off in the order in which they were set.
-/
namespace LeaseElection.Rehearsal

/-- When a leader's workload ends. -/
inductive WorkCourse where
  /-- This many nanoseconds after the leader has reacted to the cancellation. -/
  | untilCancelled (pause : Nat)
  /-- This many nanoseconds after the start, or when it is cancelled. -/
  | after (pause : Nat)
  | never
  deriving DecidableEq, Repr

structure WorkPlan where
  course : WorkCourse
  panics : Bool
  deriving DecidableEq, Repr

inductive JobStage where
  | working
  /-- It has seen its cancellation, and lets its leader react. -/
  | yielding
  | closing
  | ended
  deriving DecidableEq, Repr

/-- An alarm, and its place in the order in which alarms were set. -/
structure Alarm where
  due : Nat
  order : Nat
  deriving DecidableEq, Repr

inductive CallStage where
  | begun
  | delayed (alarm : Alarm)
  | hanging
  | late (answer : StoreAnswer Token) (alarm : Alarm)
  deriving DecidableEq, Repr

structure PendingCall where
  call : StoreCall Token
  fault : Fault
  stage : CallStage
  deriving DecidableEq, Repr

structure Seat where
  config : ElectionConfig
  hooks : Hooks
  plan : WorkPlan
  faults : FaultQueues
  /-- The elector and its resolved configuration, once it is built. -/
  elector : Option (ElectionConfig × Elector Token)
  status : Option ElectionStatus
  run : Nat
  cancelled : Bool
  alarm : Option Alarm
  call : Option PendingCall
  deriving DecidableEq, Repr

def Seat.new (config : ElectionConfig) (hooks : Hooks) (plan : WorkPlan) : Seat :=
  ⟨config, hooks, plan, .empty, none, none, 0, false, none, none⟩

def Seat.IsRunning (s : Seat) : Prop := ∃ built, s.elector = some built ∧ built.2.IsRunning

instance (s : Seat) : Decidable s.IsRunning :=
  match h : s.elector with
  | none => isFalse fun ⟨_, h', _⟩ => by simp [h] at h'
  | some built =>
    if running : built.2.IsRunning then isTrue ⟨built, h, running⟩
    else isFalse fun ⟨_, h', r⟩ => running (by rw [h] at h'; cases h'; exact r)

structure Job where
  seat : Nat
  run : Nat
  plan : WorkPlan
  cancelled : Bool
  stage : JobStage
  alarm : Option Alarm
  deriving DecidableEq, Repr

inductive Actor where
  | seat (index : Nat)
  | job (index : Nat)
  deriving DecidableEq, Repr

inductive Happening where
  | built (identity : String) (key : RecordKey) (releases : Bool)
  | refused (seat : Nat) (error : ConfigError)
  /-- A participant was to start that is taking part already. -/
  | busy (seat : Nat)
  | called (call : StoreCall Token)
  | answered (answer : StoreAnswer Token)
  | dropped (call : StoreCall Token)
  | intruded (result : Except StoreError (Versioned Token))
  | hooked (call : HookCall)
  | workEnded (cancelled : Bool)
  | returned (outcome : ElectionOutcome)
  | logged (line : LogLine)
  | read (result : Except StoreError (Versioned Token))
  deriving Repr

structure Entry where
  time : Nat
  seat : Option Nat
  status : Option ElectionStatus
  what : Happening
  deriving Repr

/-- All there is in a rehearsal. Times are in nanoseconds. -/
structure World where
  key : RecordKey
  now : Nat
  /-- The wall clock at the start, with all later shifts. -/
  wallStart : Int
  store : MemoryStore
  metrics : Metrics
  seats : List Seat
  jobs : List Job
  alarms : Nat
  ready : List Actor
  log : List Entry
  deriving Repr

namespace World

def wall (w : World) : Instant := (Instant.ofNanoseconds? (w.wallStart + w.now)).getD Instant.epoch

def setAlarm (w : World) (due : Nat) : Alarm × World :=
  (⟨due, w.alarms⟩, { w with alarms := w.alarms + 1 })

def note (w : World) (what : Happening) : World :=
  { w with log := ⟨w.now, none, none, what⟩ :: w.log }

def noteOf (w : World) (seat : Nat) (what : Happening) : World :=
  let status := match what with
    | .logged _ => none
    | _ => w.seats[seat]?.bind Seat.status
  { w with log := ⟨w.now, some seat, status, what⟩ :: w.log }

def setSeat (w : World) (index : Nat) (seat : Seat) : World :=
  { w with seats := w.seats.set index seat }

def setJob (w : World) (index : Nat) (job : Job) : World :=
  { w with jobs := w.jobs.set index job }

def wake (w : World) (actor : Actor) : World := { w with ready := w.ready ++ [actor] }

def cancelJobs (w : World) (seat run : Nat) : World :=
  let hit (job : Job) : Bool := job.seat = seat ∧ job.run = run ∧ ¬ job.cancelled
  let woken := (List.range w.jobs.length).filter fun i => (w.jobs[i]?).any hit
  let jobs := w.jobs.map fun job => if hit job then { job with cancelled := true } else job
  { w with jobs, ready := w.ready ++ woken.map .job }

def cancelRun (w : World) (seat : Nat) : World :=
  match w.seats[seat]? with
  | none => w
  | some s =>
    if s.cancelled then w
    else ((w.setSeat seat { s with cancelled := true }).cancelJobs seat s.run).wake (.seat seat)

/-- Lets an outsider write into the lock record. The entry of the log names the participant in
whose call that happens. -/
def intrude (w : World) (seat : Option Nat) (i : Intrusion) : World :=
  let current := (w.store.entry? w.key).map MemoryEntry.record
  let result := i.record current w.wall
  let store := match result with
    | .ok record => w.store.put w.key record
    | .error _ => w.store
  let what := Happening.intruded (result.map fun record => ⟨record, .ofRevision store.lastRevision⟩)
  let w := { w with store }
  match seat with
  | some index => w.noteOf index what
  | none => w.note what

end World

end LeaseElection.Rehearsal
