import LeaseElection.Bucket.Open
import LeaseElection.Proofs.Broker.Connection

namespace LeaseElection.BrokerClient

variable {config : BrokerConfig} {c : BrokerClient} {options : Nat → Except BrokerError Unit}
  {attempt : Nat → Except String Unit} {total failed : Nat}

/-- What may be asked of a client, with what happens while it is done: the files there are before
each attempt and how the attempt goes, or the broker in which a bucket is looked for. -/
inductive Request where
  | connect (files : Nat → Files) (attempt : Nat → Except String Unit)
  | disconnect
  | context
  | openBucket (host : BucketHost)

def serve (c : BrokerClient) : Request → Except BrokerError Unit × BrokerClient
  | .connect files attempt =>
    let (report, after) := c.connect (optionsFrom c.config files) attempt
    (report.result, after)
  | .disconnect => (.ok (), c.disconnect)
  | .context => (c.context, c)
  | .openBucket host => ((host.openBucket c).1.result, c)

theorem serve_connect (c : BrokerClient) (files : Nat → Files)
    (attempt : Nat → Except String Unit) :
    c.serve (.connect files attempt) =
      ((c.connect (optionsFrom c.config files) attempt).1.result,
        (c.connect (optionsFrom c.config files) attempt).2) := rfl

/-- A configuration is only looked at if the client is not connected. -/
def Refuses (c : BrokerClient) : Prop :=
  c.state ≠ .connected ∧ ∃ e, c.config.validate = .error e

structure Exchange where
  before : BrokerClient
  request : Request

namespace Exchange

def result (e : Exchange) : Except BrokerError Unit := (e.before.serve e.request).1

def Connects (e : Exchange) : Prop := ∃ files attempt, e.request = .connect files attempt

/-- The exchange was a disconnection, or a connection whose configuration was not refused. -/
def Decides (e : Exchange) : Prop :=
  e.request = .disconnect ∨ (e.Connects ∧ ¬ e.before.Refuses)

end Exchange

/-- A client of this configuration after some calls, the last one first. -/
inductive Served (config : BrokerConfig) : BrokerClient → List Exchange → Prop
  | new : Served config (.new config) []
  | call {c : BrokerClient} {history : List Exchange} (served : Served config c history)
      (request : Request) : Served config (c.serve request).2 (⟨c, request⟩ :: history)

/-- The last exchange that decides. -/
def Latest (history : List Exchange) (e : Exchange) : Prop :=
  ∃ later earlier, history = later ++ e :: earlier ∧ e.Decides ∧ ∀ other ∈ later, ¬ other.Decides

theorem latest_cons_of_decides {history : List Exchange} {first e : Exchange}
    (decides : first.Decides) : Latest (first :: history) e ↔ e = first := by
  constructor
  · rintro ⟨later, earlier, same, -, idle⟩
    cases later with
    | nil => exact (List.cons.inj same).1.symm
    | cons other later =>
        obtain rfl : first = other := (List.cons.inj same).1
        exact absurd decides (idle first List.mem_cons_self)
  · rintro rfl
    exact ⟨[], history, rfl, decides, fun _ among => (List.not_mem_nil among).elim⟩

theorem latest_cons_of_idle {history : List Exchange} {first e : Exchange}
    (idle : ¬ first.Decides) : Latest (first :: history) e ↔ Latest history e := by
  constructor
  · rintro ⟨later, earlier, same, decides, others⟩
    cases later with
    | nil =>
        obtain rfl : first = e := (List.cons.inj same).1
        exact absurd decides idle
    | cons other later =>
        obtain ⟨rfl, rest⟩ := List.cons.inj same
        exact ⟨later, earlier, rest, decides,
          fun o among => others o (List.mem_cons_of_mem _ among)⟩
  · rintro ⟨later, earlier, rfl, decides, others⟩
    exact ⟨first :: later, earlier, rfl, decides, List.forall_mem_cons.mpr ⟨idle, others⟩⟩

/-- Either a connection is kept and the client remembers that it is connected, or there is none and
it remembers that. -/
def Settled (c : BrokerClient) : Prop :=
  (c.linked = true ∧ c.state = .connected) ∨ (c.linked = false ∧ c.state = .disconnected)

theorem Settled.context_iff (settled : c.Settled) : c.context = .ok () ↔ c.state = .connected := by
  unfold context
  rcases settled with ⟨linked, connected⟩ | ⟨unlinked, disconnected⟩
  · simp [linked, connected]
  · simp [unlinked, disconnected]

/-- A connection is kept if the attempts succeed, and else it is as it was. -/
theorem attemptFrom_settles (total : Nat) (options : Nat → Except BrokerError Unit)
    (attempt : Nat → Except String Unit) (failed : Nat) (c : BrokerClient) :
    ((attemptFrom total options attempt failed c).1.result = .ok () ∧
      (attemptFrom total options attempt failed c).2 = c.keepConnection) ∨
    (∃ e, (attemptFrom total options attempt failed c).1.result = .error e ∧
      (attemptFrom total options attempt failed c).2 = c.setState .disconnected) := by
  fun_induction attemptFrom total options attempt failed c with
  | case1 failed e made => exact .inr ⟨e, rfl, rfl⟩
  | case2 failed made success => exact .inl ⟨rfl, rfl⟩
  | case3 failed c made reason failure more later after continued ih =>
      rw [continued] at ih
      exact ih
  | case4 failed c made reason failure last =>
      exact .inr ⟨_, rfl, rfl⟩

theorem connect_of_connected (connected : c.state = .connected) :
    c.connect options attempt = (⟨.ok (), 0, [], []⟩, c) := if_pos connected

theorem connect_of_refuses (refuses : c.Refuses) : ∃ e, c.config.validate = .error e ∧
    c.connect options attempt = (⟨.error e, 0, [], []⟩, c) := by
  obtain ⟨unconnected, e, invalid⟩ := refuses
  refine ⟨e, invalid, ?_⟩
  rw [connect, if_neg unconnected, invalid]

/-- A connection that is not refused succeeds with a connection that is kept, or fails without one.
-/
theorem connect_settles (settled : c.Settled) (admitted : ¬ c.Refuses) :
    (c.connect options attempt).2.Settled ∧
      ((c.connect options attempt).2.state = .connected ↔
        (c.connect options attempt).1.result = .ok ()) := by
  by_cases connected : c.state = .connected
  · rw [connect_of_connected connected]
    exact ⟨settled, iff_of_true connected rfl⟩
  · have accepted : c.config.validate = .ok () := by
      cases valid : c.config.validate with
      | ok _ => rfl
      | error e => exact absurd ⟨connected, e, valid⟩ admitted
    rw [connect_of_accepted accepted connected]
    rcases attemptFrom_settles (maxAttempts c.config) options attempt 0 c.beginConnecting with
      ⟨success, after⟩ | ⟨e, failure, after⟩
    · rw [success, after]
      exact ⟨.inl ⟨rfl, rfl⟩, iff_of_true rfl rfl⟩
    · rw [failure, after]
      exact ⟨.inr ⟨rfl, rfl⟩, iff_of_false nofun nofun⟩

/-- What is so after any calls: the state is settled, and a connection is kept exactly if the last
exchange that decides was a connection that succeeded. -/
structure Remembers (c : BrokerClient) (history : List Exchange) : Prop where
  settled : c.Settled
  connected_iff : c.state = .connected ↔
    ∃ e, Latest history e ∧ e.Connects ∧ e.result = .ok ()

variable {history : List Exchange}

/-- A call that decides nothing and leaves the client as it is. -/
theorem Remembers.idle (remembers : Remembers c history) {first : Exchange}
    (idle : ¬ first.Decides) : Remembers c (first :: history) where
  settled := remembers.settled
  connected_iff := by
    simp only [latest_cons_of_idle idle]
    exact remembers.connected_iff

theorem Exchange.decides_connect (before : BrokerClient) (files : Nat → Files)
    (attempt : Nat → Except String Unit) :
    (Exchange.mk before (.connect files attempt)).Decides ↔ ¬ before.Refuses := by
  constructor
  · rintro (other | ⟨-, admitted⟩)
    · cases other
    · exact admitted
  · exact fun admitted => .inr ⟨⟨files, attempt, rfl⟩, admitted⟩

theorem Remembers.serve (remembers : Remembers c history) (request : Request) :
    Remembers (c.serve request).2 (⟨c, request⟩ :: history) := by
  cases request with
  | disconnect =>
      refine ⟨.inr ⟨rfl, rfl⟩, iff_of_false nofun ?_⟩
      rintro ⟨e, latest, ⟨files, attempt, connects⟩, -⟩
      obtain rfl := (latest_cons_of_decides (.inl rfl)).mp latest
      cases connects
  | context =>
      refine remembers.idle ?_
      rintro (other | ⟨⟨_, _, other⟩, -⟩)
      · cases other
      · cases other
  | openBucket host =>
      refine remembers.idle ?_
      rintro (other | ⟨⟨_, _, other⟩, -⟩)
      · cases other
      · cases other
  | connect files attempt =>
      by_cases refuses : c.Refuses
      · obtain ⟨e, -, connected⟩ := connect_of_refuses refuses
        have same : (c.serve (.connect files attempt)).2 = c := by
          rw [serve_connect, connected]
        rw [same]
        exact remembers.idle fun decides => (Exchange.decides_connect _ _ _).mp decides refuses
      · have decides := (Exchange.decides_connect c files attempt).mpr refuses
        obtain ⟨settled, success⟩ := connect_settles remembers.settled refuses
        refine ⟨settled, success.trans ⟨fun succeeded => ?_, ?_⟩⟩
        · exact ⟨_, (latest_cons_of_decides decides).mpr rfl, ⟨files, attempt, rfl⟩, succeeded⟩
        · rintro ⟨e, latest, -, succeeded⟩
          obtain rfl := (latest_cons_of_decides decides).mp latest
          exact succeeded

theorem Served.remembers (served : Served config c history) : Remembers c history := by
  induction served with
  | new =>
      refine ⟨.inr ⟨rfl, rfl⟩, iff_of_false nofun ?_⟩
      rintro ⟨e, ⟨later, earlier, same, -⟩, -⟩
      exact absurd same.symm (by simp)
  | call served request ih => exact ih.serve request

/-- A client whose configuration is refused stays as it was made. -/
theorem Served.eq_new (served : Served config c history) {e : BrokerError}
    (invalid : config.validate = .error e) : c = .new config := by
  induction served with
  | new => rfl
  | call served request ih =>
      rw [ih]
      cases request with
      | disconnect => rfl
      | context => rfl
      | openBucket host => rfl
      | connect files attempt =>
          have refuses : (BrokerClient.new config).Refuses :=
            ⟨by simp [BrokerClient.new], e, invalid⟩
          obtain ⟨_, -, connected⟩ := connect_of_refuses refuses
          rw [serve_connect, connected]

/-- Whatever was asked of a client, its state says whether it keeps a connection. It keeps one
exactly if the last disconnection, or connection that was not refused, was a connection that
succeeded. A connected client makes no attempt, and neither does one whose configuration is refused.
-/
theorem state_kept (served : Served config c history) :
    ((c.linked = true ∧ c.state = .connected) ∨ (c.linked = false ∧ c.state = .disconnected)) ∧
    (c.context = .ok () ↔ ∃ e, Latest history e ∧ e.Connects ∧ e.result = .ok ()) ∧
    (∀ options attempt, c.state = .connected →
      c.connect options attempt = (⟨.ok (), 0, [], []⟩, c)) ∧
    (∀ options attempt, c.Refuses → ∃ e, c.config.validate = .error e ∧
      c.connect options attempt = (⟨.error e, 0, [], []⟩, c)) ∧
    (∀ e, config.validate = .error e → c = .new config) := by
  obtain ⟨settled, connected_iff⟩ := served.remembers
  exact ⟨settled, settled.context_iff.trans connected_iff, fun _ _ => connect_of_connected,
    fun _ _ => connect_of_refuses, fun _ => served.eq_new⟩

/-- A second connection, although every attempt would fail by then: the client is connected already.
-/
theorem state_kept_connected : ∃ c history, Served .default c history ∧ history.length = 3 ∧
    c.context = .ok () := by
  let attempts (result : Except String Unit) : Request := .connect (fun _ => .empty) fun _ => result
  have connected : ((new .default).serve (attempts (.ok ()))).2.state = .connected := by
    have unconnected : (new .default).state ≠ .connected := by decide
    have after : (new .default).connect (optionsFrom .default fun _ => .empty)
        (fun _ => .ok ()) = _ :=
      (connect_of_accepted rfl unconnected).trans (attemptFrom_of_success rfl rfl)
    exact congrArg (fun connected => connected.2.state) after
  have fresh : Served .default (new .default) [] := .new
  have served := ((fresh.call (attempts (.ok ()))).call (.openBucket ⟨none, [], [], [], []⟩)).call
    (attempts (.error "IO error"))
  refine ⟨_, _, served, rfl, (state_kept served).2.1.mpr ⟨_, (latest_cons_of_decides ?_).mpr rfl,
    ⟨_, _, rfl⟩, ?_⟩⟩
  · exact (Exchange.decides_connect _ _ _).mpr fun refuses => refuses.1 connected
  · exact congrArg (fun connected => connected.1.result) (connect_of_connected connected)

end LeaseElection.BrokerClient
