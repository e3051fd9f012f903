import LeaseElection.Process.Step
import LeaseElection.Proofs.Course.Instants
import LeaseElection.Proofs.Lock.Memory

/-!
# What an onlooker sees

A participant publishes its status, keeps its metrics and calls its hooks, each by itself. A log tells
everything that ever happened to it, over all its runs, and a view is what an onlooker makes of a log:
all that is shown at some instant, and what the latest run was told about other participants. A run
ends by returning, or together with its process; that its caller drops it in the midst of something,
while the process goes on, is left out.
-/
namespace LeaseElection

namespace Metrics

/-- The metrics once a participant of this election has done something. -/
def heed (m : Metrics) (election : String) : Effect τ → Metrics
  | .count metric => m.add metric election 1
  | .gauge leading => m.write .isLeader election (if leading then 1 else 0)
  | _ => m

/-- A process keeps the metrics of its election just so. -/
theorem perform_heed (p : Process) (effect : Effect Token) :
    (p.perform effect).metrics = p.metrics.heed p.config.key.text effect := by
  cases effect <;> rfl

@[simp] theorem read_write (m : Metrics) (metric : Metric) (election : String) (value : Int) :
    (m.write metric election value).read metric election = value := by
  have found := lookup_replaced m.readings (metric, election) (metric, election) value
  rw [if_pos rfl] at found
  exact congrArg (fun reading => reading.getD 0) found

theorem read_add_other {metric other : Metric} (apart : other ≠ metric) (m : Metrics)
    (election : String) (amount : Nat) :
    (m.add metric election amount).read other election = m.read other election := by
  have found := lookup_replaced m.readings (metric, election) (other, election)
    ((m.read metric election + amount) % UInt64.size)
  rw [if_neg (by simpa using apart)] at found
  exact congrArg (fun reading => reading.getD 0) found

end Metrics

structure View where
  /-- The status published last. -/
  status : ElectionStatus
  metrics : Metrics
  /-- Whether a run is in progress. -/
  running : Bool
  /-- Whether the latest run has stopped leading. -/
  stopped : Bool
  /-- The leaders that the latest run reported. -/
  reports : List String
  /-- The holders, other than this participant, that the latest run read while it was acquiring. -/
  sought : List String
  /-- The holders, other than this participant, that the latest run read while it led. -/
  met : List String
  /-- How the latest run ended, if it did. -/
  outcome : Option ElectionOutcome
  deriving DecidableEq, Repr

namespace View

def blank (identity : String) : View :=
  ⟨.initial identity, .empty, false, false, [], [], [], none⟩

/-- A view once the record was read. -/
def read (identity : String) (v : View) (record : LeaseRecord) : View :=
  if record.IsVacant ∨ record.holder = identity then v
  else if v.status.IsLeader then { v with met := v.met ++ [record.holder] }
  else { v with sought := v.sought ++ [record.holder] }

variable (c : ElectionConfig)

/-- A view after an event. -/
def note (v : View) : Event τ → View
  | .told _ .start =>
    { v with
      running := true, stopped := false, reports := [], sought := [], met := [], outcome := none }
  | .told _ (.answered (.found current)) => v.read c.identity current.record
  | .did (.publish status) => { v with status }
  | .did (.hook .stopped) => { v with stopped := true }
  | .did (.hook (.newLeader leader)) => { v with reports := v.reports ++ [leader] }
  | .did (.returned outcome) => { v with running := false, outcome := some outcome }
  | .did effect => { v with metrics := v.metrics.heed c.key.text effect }
  | .restarted => blank c.identity
  | .told .. | .cancelled => v

/-- What the gauge of this election shows. -/
def gauge (v : View) : Int := v.metrics.read .isLeader c.key.text

/-- Whether what is published and what is measured go together. -/
structure Coherent (v : View) : Prop where
  /-- A leader says that it is the leader. -/
  leads : v.status.IsLeader → v.status.leader = some c.identity ∧ v.gauge c = 1
  /-- Where there is no run nothing is left of one. -/
  rests : v.running = false → v.status.phase = .idle ∧ v.gauge c = 0
  /-- After leadership was lost the successor is published, if one was met. -/
  lost : v.outcome = some .leadershipLost →
    v.status.leader = v.met.head? ∧ v.status.leader ≠ some c.identity

theorem blank_coherent : Coherent c (blank c.identity) where
  leads leader := by
    rcases leader with leading | renewing
    · cases leading
    · cases renewing
  rests _ := ⟨rfl, rfl⟩
  lost lost := by cases lost

/-- Whether an event may follow: a report names another participant, and once a successor was met
it comes only after leading has stopped. -/
def Permits (v : View) : Event τ → Prop
  | .did (.hook (.newLeader leader)) =>
    leader ≠ "" ∧ leader ≠ c.identity ∧ (v.met ≠ [] → v.stopped = true)
  | _ => True

end View

/-- What is seen once all this has happened. -/
def view (c : ElectionConfig) : Trace τ → View
  | [] => .blank c.identity
  | event :: past => (view c past).note c event

/-- At every instant of a log the view was coherent and what happened next was permitted. -/
structure Trace.Seemly (c : ElectionConfig) (log : Trace τ) : Prop where
  coherent : ∀ past, past <:+ log → (view c past).Coherent c
  permitted : ∀ event past, event :: past <:+ log → (view c past).Permits c event

namespace Trace

variable {c : ElectionConfig} {log : Trace τ}

theorem seemly_nil : Seemly c ([] : Trace τ) := by
  refine ⟨?_, ?_⟩
  · intro past within
    rw [List.suffix_nil.mp within]
    exact View.blank_coherent c
  · intro event past within
    cases List.suffix_nil.mp within

theorem Seemly.cons (seemly : log.Seemly c) {event : Event τ}
    (permitted : (view c log).Permits c event)
    (coherent : ((view c log).note c event).Coherent c) : Seemly c (event :: log) := by
  refine ⟨?_, ?_⟩
  · intro past within
    rcases List.suffix_cons_iff.mp within with rfl | earlier
    · exact coherent
    · exact seemly.coherent past earlier
  · intro next past within
    rcases List.suffix_cons_iff.mp within with same | earlier
    · cases same
      exact permitted
    · exact seemly.permitted next past earlier

end Trace

namespace Course

/-- What may have happened to a participant, over all its runs, and what became of it. -/
inductive Chronicle [DecidableEq τ] (c : ElectionConfig) (pace : Pace) : Trace τ → Course τ → Prop
  | initial (now : Nat) : Chronicle c pace [] (.initial c now)
  | move {log : Trace τ} {k : Course τ} (chronicle : Chronicle c pace log k) (wall : Instant)
      (move : Move τ) (allowed : k.Allows move) :
      Chronicle c pace (k.news c wall move ++ log) (k.after c wall move)
  | pass {log : Trace τ} {k : Course τ} (chronicle : Chronicle c pace log k) (time : Nat)
      (may : MayPass c pace k time) : Chronicle c pace log (k.pass time)

variable [DecidableEq τ] {c : ElectionConfig} {pace : Pace} {log : Trace τ} {k : Course τ}

theorem Chronicle.reachable (chronicle : Chronicle c pace log k) : Reachable c pace k := by
  induction chronicle with
  | initial now => exact .initial now
  | move _ wall move allowed ih => exact ih.does wall move allowed
  | pass _ time may ih => exact ih.waits time may

theorem Reachable.exists_log (reachable : Reachable c pace k) : ∃ log, Chronicle c pace log k := by
  induction reachable with
  | initial now => exact ⟨[], .initial now⟩
  | step _ step ih =>
      obtain ⟨log, chronicle⟩ := ih
      cases step with
      | move wall move allowed => exact ⟨_, chronicle.move wall move allowed⟩
      | pass time may => exact ⟨log, chronicle.pass time may⟩

end Course

end LeaseElection
