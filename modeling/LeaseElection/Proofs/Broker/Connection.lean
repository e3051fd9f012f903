import LeaseElection.Broker.Client
import LeaseElection.Broker.Credentials

namespace LeaseElection

namespace Credentials

variable {α β ε : Type}

/-- A failure, if it is one, is of the configuration. -/
def BlamesConfig (x : Except BrokerError α) : Prop :=
  ∀ e, x = .error e → ∃ reason, e = .config reason

theorem BlamesConfig.ok (a : α) : BlamesConfig (.ok a : Except BrokerError α) := nofun

theorem BlamesConfig.config (reason : String) :
    BlamesConfig (.error (.config reason) : Except BrokerError α) := by
  intro e same
  cases same
  exact ⟨reason, rfl⟩

theorem BlamesConfig.bind {x : Except BrokerError α} {f : α → Except BrokerError β}
    (first : BlamesConfig x) (second : ∀ a, BlamesConfig (f a)) : BlamesConfig (x >>= f) := by
  cases x with
  | ok a => exact second a
  | error e =>
      obtain ⟨reason, rfl⟩ := first e rfl
      exact .config reason

theorem required_blames (mode : SecurityMode) (field : String) (value : Option String) :
    BlamesConfig (required mode field value) := by
  cases value with
  | some value => exact .ok value
  | none => exact .config _

theorem orConfig_blames (reason : ε → String) (x : Except ε α) :
    BlamesConfig (orConfig reason x) := by
  cases x with
  | ok a => exact .ok a
  | error e => exact .config _

theorem ofConfig_blames (files : Files) (c : BrokerConfig) : BlamesConfig (ofConfig files c) := by
  unfold ofConfig
  cases c.securityMode with
  | none => exact .ok _
  | userPassword =>
      exact .bind (required_blames _ _ _) fun _ => .bind (required_blames _ _ _) fun _ => .ok _
  | token => exact .bind (required_blames _ _ _) fun _ => .ok _
  | nkey =>
      exact .bind (required_blames _ _ _) fun _ => .bind (orConfig_blames _ _) fun _ => .ok _
  | tls =>
      exact .bind (required_blames _ _ _) fun _ => .bind (required_blames _ _ _) fun _ => .ok _
  | credsFile =>
      exact .bind (required_blames _ _ _) fun _ => .bind (orConfig_blames _ _) fun _ =>
        orConfig_blames _ _

theorem check_blames (files : Files) (c : BrokerConfig) : BlamesConfig (check files c) := by
  have made := ofConfig_blames files c
  unfold check
  cases credentials : ofConfig files c with
  | ok _ => exact .ok _
  | error e =>
      obtain ⟨reason, rfl⟩ := made e credentials
      exact .config reason

end Credentials

namespace ConnectReport

/-- The report when failed attempts with these pauses after them came first. -/
def afterPauses (r : ConnectReport) (pauses : List Duration) : ConnectReport :=
  pauses.foldr (fun pause later => later.afterPause pause) r

theorem afterPauses_concat (r : ConnectReport) (pauses : List Duration) (pause : Duration) :
    r.afterPauses (pauses ++ [pause]) = (r.afterPause pause).afterPauses pauses :=
  List.foldr_append

theorem afterPauses_result (r : ConnectReport) (pauses : List Duration) :
    (r.afterPauses pauses).result = r.result := by
  induction pauses with
  | nil => rfl
  | cons pause pauses ih => exact ih

theorem afterPauses_attempts (r : ConnectReport) (pauses : List Duration) :
    (r.afterPauses pauses).attempts = r.attempts := by
  induction pauses with
  | nil => rfl
  | cons pause pauses ih => exact ih

theorem afterPauses_pauses (r : ConnectReport) (pauses : List Duration) :
    (r.afterPauses pauses).pauses = pauses ++ r.pauses := by
  induction pauses with
  | nil => rfl
  | cons pause pauses ih => exact congrArg (pause :: ·) ih

end ConnectReport

namespace BrokerClient

variable {total failed : Nat} {options : Nat → Except BrokerError Unit}
  {attempt : Nat → Except String Unit} {c : BrokerClient}

theorem atMost_eq (d limit : Duration) :
    d.atMost limit = ⟨min d.nanoseconds limit.nanoseconds⟩ := by
  unfold Duration.atMost
  split
  next shorter => rw [Nat.min_eq_left shorter]
  next longer => rw [Nat.min_eq_right (Nat.le_of_not_le longer)]

/-- The pause doubles from one second up to thirty. Neither the power nor the product ever stays at
the greatest word or duration but where the limit of thirty seconds is reached anyway. -/
theorem pauseAfter_eq (failed : Nat) :
    pauseAfter failed = .ofSeconds (min (Nat.pow 2 failed) 30) := by
  have word : min (Nat.pow 2 failed) (UInt32.size - 1) ≤ 4294967295 := Nat.min_le_right _ _
  have least : min (Nat.pow 2 failed) 30 = min (min (Nat.pow 2 failed) (UInt32.size - 1)) 30 := by
    rw [Nat.min_assoc]
    rfl
  have fits : firstPause.nanoseconds * min (Nat.pow 2 failed) (UInt32.size - 1) ≤
      Duration.max.nanoseconds :=
    Nat.le_trans (Nat.mul_le_mul_left _ word) (by decide)
  rw [pauseAfter, Duration.saturatingMul, if_pos fits, atMost_eq, least]
  generalize min (Nat.pow 2 failed) (UInt32.size - 1) = power
  change Duration.mk (min (1000000000 * power) 30000000000) = ⟨min power 30 * 1000000000⟩
  rw [Duration.mk.injEq]
  omega

/-- The pauses after the first failed attempts. -/
def pauses (count : Nat) : List Duration :=
  (List.range count).map fun failed => .ofSeconds (min (Nat.pow 2 failed) 30)

theorem total_pauses_succ (count : Nat) : Duration.total (pauses (count + 1)) =
    ⟨(Duration.total (pauses count)).nanoseconds +
      (Duration.ofSeconds (min (Nat.pow 2 count) 30)).nanoseconds⟩ := by
  rw [pauses, List.range_succ, List.map_append, List.map_singleton, Duration.total,
    List.foldl_append, List.foldl_cons, List.foldl_nil]
  rfl

theorem total_pauses_doubling {count : Nat} (few : count ≤ 5) :
    Duration.total (pauses count) = .ofSeconds (Nat.pow 2 count - 1) := by
  induction count with
  | zero => rfl
  | succ count ih =>
      have power : Nat.pow 2 count ≤ 16 :=
        Nat.pow_le_pow_right (by decide) (Nat.le_of_succ_le_succ few)
      have positive : 0 < Nat.pow 2 count := Nat.two_pow_pos count
      have doubled : Nat.pow 2 (count + 1) = Nat.pow 2 count * 2 := rfl
      rw [total_pauses_succ, ih (Nat.le_of_succ_le few), Nat.min_eq_left (by omega), doubled]
      simp only [Duration.ofSeconds, Duration.nanosPerSecond, Duration.mk.injEq]
      omega

theorem total_pauses_steady (more : Nat) :
    Duration.total (pauses (5 + more)) = .ofSeconds (31 + 30 * more) := by
  induction more with
  | zero => exact total_pauses_doubling (Nat.le_refl 5)
  | succ more ih =>
      have power : Nat.pow 2 5 ≤ Nat.pow 2 (5 + more) :=
        Nat.pow_le_pow_right (by decide) (Nat.le_add_right 5 more)
      have many : 30 ≤ Nat.pow 2 (5 + more) := Nat.le_trans (by decide) power
      rw [← Nat.add_assoc, total_pauses_succ, ih, Nat.min_eq_right many]
      simp only [Duration.ofSeconds, Duration.nanosPerSecond, Duration.mk.injEq]
      omega

/-- There are options for the attempt that this many failed attempts precede, and it fails too. -/
def Fails (options : Nat → Except BrokerError Unit) (attempt : Nat → Except String Unit)
    (failed : Nat) : Prop :=
  options failed = .ok () ∧ ∃ reason, attempt failed = .error reason

theorem attemptFrom_of_fails (fails : Fails options attempt failed) (more : failed + 1 < total) :
    attemptFrom total options attempt failed c =
      ((attemptFrom total options attempt (failed + 1) c).1.afterPause (pauseAfter failed),
        (attemptFrom total options attempt (failed + 1) c).2) := by
  obtain ⟨made, reason, failure⟩ := fails
  rw [attemptFrom, made, failure]
  dsimp only
  rw [if_pos more]

/-- Attempts go on where failed ones have led. -/
theorem attemptFrom_after {count : Nat} (fails : ∀ failed < count, Fails options attempt failed)
    (more : count < total) : attemptFrom total options attempt 0 c =
      ((attemptFrom total options attempt count c).1.afterPauses (pauses count),
        (attemptFrom total options attempt count c).2) := by
  induction count with
  | zero => rfl
  | succ count ih =>
      have before : pauses (count + 1) = pauses count ++ [pauseAfter count] := by
        rw [pauses, List.range_succ, List.map_append, pauseAfter_eq]
        rfl
      rw [ih (fun failed earlier => fails failed (Nat.lt_succ_of_lt earlier))
          (Nat.lt_of_succ_lt more),
        attemptFrom_of_fails (fails count (Nat.lt_succ_self count)) more, before,
        ConnectReport.afterPauses_concat]

theorem attemptFrom_of_success (made : options failed = .ok ())
    (success : attempt failed = .ok ()) :
    attemptFrom total options attempt failed c =
      (⟨.ok (), failed + 1, [], []⟩, c.keepConnection) := by
  rw [attemptFrom, made, success]

theorem attemptFrom_of_unmade {e : BrokerError} (unmade : options failed = .error e) :
    attemptFrom total options attempt failed c =
      (⟨.error e, failed, [], []⟩, c.setState .disconnected) := by
  rw [attemptFrom, unmade]

theorem attemptFrom_of_last {reason : String} (made : options failed = .ok ())
    (failure : attempt failed = .error reason) (last : total ≤ failed + 1) :
    attemptFrom total options attempt failed c =
      (⟨.error (.transport (transportReason total reason)), failed + 1, [],
        [.error "NATS connection failed after all retry attempts"]⟩, c.setState .disconnected) := by
  rw [attemptFrom, made, failure]
  dsimp only
  rw [if_neg (Nat.not_lt_of_le last)]

theorem connect_of_accepted (accepted : c.config.validate = .ok ())
    (unconnected : c.state ≠ .connected) :
    c.connect options attempt =
      attemptFrom (maxAttempts c.config) options attempt 0 c.beginConnecting := by
  rw [connect, if_neg unconnected, accepted]

theorem maxAttempts_pos (config : BrokerConfig) : 0 < maxAttempts config := by
  have most : 0 < UInt32.size - 1 := by decide
  unfold maxAttempts
  omega

/-- How long the pauses after all attempts but the last are together. -/
theorem total_pauses_maxAttempts (config : BrokerConfig) :
    (config.connectRetryMax ≤ 5 →
      Duration.total (pauses (maxAttempts config - 1)) =
        .ofSeconds (Nat.pow 2 config.connectRetryMax - 1)) ∧
    (5 ≤ config.connectRetryMax → config.connectRetryMax < UInt32.size - 1 →
      Duration.total (pauses (maxAttempts config - 1)) =
        .ofSeconds (31 + 30 * (config.connectRetryMax - 5))) := by
  have retries (within : config.connectRetryMax < UInt32.size - 1) :
      maxAttempts config - 1 = config.connectRetryMax := by
    unfold maxAttempts
    omega
  constructor
  · intro few
    rw [retries (Nat.lt_of_le_of_lt few (by decide)), total_pauses_doubling few]
  · intro many within
    obtain ⟨more, same⟩ := Nat.exists_eq_add_of_le many
    rw [retries within, same, total_pauses_steady, Nat.add_sub_cancel_left]

/-- The options of each attempt, made from the files that there are just before it. -/
def optionsFrom (config : BrokerConfig) (files : Nat → Files) (failed : Nat) :
    Except BrokerError Unit :=
  Credentials.check (files failed) config

/-- What a connection comes to if every attempt that may be made fails. -/
structure Exhausted (c : BrokerClient) (attempt : Nat → Except String Unit)
    (connected : ConnectReport × BrokerClient) : Prop where
  attempts : connected.1.attempts = min (c.config.connectRetryMax + 1) (UInt32.size - 1)
  /-- No pause follows the last attempt. -/
  pauses : connected.1.pauses = pauses (connected.1.attempts - 1)
  waitsDoubling : c.config.connectRetryMax ≤ 5 →
    connected.1.waited = .ofSeconds (Nat.pow 2 c.config.connectRetryMax - 1)
  waitsSteady : 5 ≤ c.config.connectRetryMax → c.config.connectRetryMax < UInt32.size - 1 →
    connected.1.waited = .ofSeconds (31 + 30 * (c.config.connectRetryMax - 5))
  result : ∃ reason, attempt (connected.1.attempts - 1) = .error reason ∧
    connected.1.result = .error (.transport (transportReason connected.1.attempts reason))
  unlinked : connected.2.linked = false
  disconnected : connected.2.state = .disconnected

theorem exhausted_of_fails (accepted : c.config.validate = .ok ())
    (unconnected : c.state ≠ .connected)
    (fails : ∀ failed < maxAttempts c.config, Fails options attempt failed) :
    Exhausted c attempt (c.connect options attempt) := by
  have positive := maxAttempts_pos c.config
  obtain ⟨last, same⟩ := Nat.exists_eq_add_one_of_ne_zero (Nat.ne_of_gt positive)
  obtain ⟨made, reason, failure⟩ := fails last (by omega)
  have connected : c.connect options attempt = _ :=
    (connect_of_accepted accepted unconnected).trans
      (attemptFrom_after (fun failed (earlier : failed < last) => fails failed (by omega))
        (by omega))
  rw [attemptFrom_of_last made failure (by omega)] at connected
  obtain ⟨doubling, steady⟩ := total_pauses_maxAttempts c.config
  have attempts : (c.connect options attempt).1.attempts = maxAttempts c.config := by
    rw [connected, ConnectReport.afterPauses_attempts, same]
  have waits : (c.connect options attempt).1.pauses = pauses (maxAttempts c.config - 1) := by
    rw [connected, ConnectReport.afterPauses_pauses, List.append_nil, same, Nat.add_sub_cancel]
  exact {
    attempts
    pauses := by rw [waits, attempts]
    waitsDoubling := fun few => by rw [ConnectReport.waited, waits, doubling few]
    waitsSteady := fun many within => by rw [ConnectReport.waited, waits, steady many within]
    result := by
      refine ⟨reason, ?_, ?_⟩
      · rw [attempts, same]
        exact failure
      · rw [attempts, connected, ConnectReport.afterPauses_result]
    unlinked := by rw [connected]; rfl
    disconnected := by rw [connected]; rfl }

/-- A client that is not connected makes attempts until one succeeds, until there are no options for
one or until it made all it may make, whatever files come and go meanwhile. -/
theorem connection_kept (c : BrokerClient) (files : Nat → Files)
    (attempt : Nat → Except String Unit) (accepted : c.config.validate = .ok ())
    (unconnected : c.state ≠ .connected) :
    ((∀ failed < maxAttempts c.config, Fails (optionsFrom c.config files) attempt failed) →
      Exhausted c attempt (c.connect (optionsFrom c.config files) attempt)) ∧
    ∀ count < maxAttempts c.config,
      (∀ failed < count, Fails (optionsFrom c.config files) attempt failed) →
      let connected := c.connect (optionsFrom c.config files) attempt
      (optionsFrom c.config files count = .ok () → attempt count = .ok () →
        connected.1.result = .ok () ∧ connected.1.attempts = count + 1 ∧
          connected.1.pauses = pauses count ∧ connected.2.linked = true ∧
            connected.2.state = .connected) ∧
      ∀ e, optionsFrom c.config files count = .error e →
        (∃ reason, e = .config reason) ∧ connected.1.result = .error e ∧
          connected.1.attempts = count ∧ connected.1.pauses = pauses count ∧
            connected.2.linked = false ∧ connected.2.state = .disconnected := by
  refine ⟨exhausted_of_fails accepted unconnected, fun count more fails => ?_⟩
  dsimp only
  rw [connect_of_accepted accepted unconnected, attemptFrom_after fails more]
  simp only [ConnectReport.afterPauses_result, ConnectReport.afterPauses_attempts,
    ConnectReport.afterPauses_pauses]
  constructor
  · intro made success
    rw [attemptFrom_of_success made success]
    exact ⟨rfl, rfl, List.append_nil _, rfl, rfl⟩
  · intro e unmade
    rw [attemptFrom_of_unmade unmade]
    exact ⟨Credentials.check_blames _ _ e unmade, rfl, rfl, List.append_nil _, rfl, rfl⟩

/-- The default configuration, but with as many retries as there can be. -/
def tireless : BrokerConfig := { BrokerConfig.default with connectRetryMax := UInt32.size - 1 }

/-- The first success comes after more failures than the pause can double. -/
theorem connection_kept_late : tireless.validate = .ok () ∧
    ((BrokerClient.new tireless).connect (optionsFrom tireless fun _ => .empty)
      fun failed => if failed < 40 then .error "IO error" else .ok ()).1.attempts = 41 := by
  have accepted : tireless.validate = .ok () := rfl
  have kept := (connection_kept (BrokerClient.new tireless) (fun _ => .empty)
    (fun failed => if failed < 40 then .error "IO error" else .ok ()) accepted nofun).2 40
    (by decide) fun failed earlier => ⟨rfl, "IO error", if_pos earlier⟩
  exact ⟨accepted, (kept.1 rfl rfl).2.1⟩

end BrokerClient

end LeaseElection
