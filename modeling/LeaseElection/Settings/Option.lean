import LeaseElection.Broker.Config
import LeaseElection.Election.Config
import LeaseElection.Host.IpAddress

namespace LeaseElection

inductive Backend where
  | memory
  | nats
  deriving DecidableEq, Repr

def Backend.text : Backend → String
  | .memory => "memory"
  | .nats => "nats"

/-- What a process is told when it is started. -/
structure Settings where
  election : ElectionConfig
  backend : Backend
  broker : BrokerConfig
  endpoint : SocketAddress
  threadName : String
  /-- How many threads do the work; as many as the host suggests if not said. -/
  threads : Option Nat
  logFilter : String
  deriving DecidableEq, Repr

namespace Settings

def default : Settings where
  election := .default
  backend := .nats
  broker := { BrokerConfig.default with requestTimeout := some (.ofSeconds 2) }
  endpoint := .default
  threadName := "leasehold-worker"
  threads := none
  logFilter := "info"

end Settings

/-- A thing that a process can be told. -/
inductive Setting where
  | name
  | nameSpace
  | namespaceFile
  | electionId
  | leaseDuration
  | renewDeadline
  | retryPeriod
  | releaseOnCancel
  | backend
  | natsServers
  | natsBucket
  | natsSecurityMode
  | natsUsername
  | natsPassword
  | natsToken
  | natsNkeySeedPath
  | natsTlsCertPath
  | natsTlsKeyPath
  | natsTlsCaPath
  | natsCredsFilePath
  | natsConnectRetryMax
  | natsRequestTimeout
  | externalApi
  | threadName
  | threads
  | logFilter
  deriving DecidableEq, Repr

inductive ValueFault where
  | missing
  | notAChoice
  | invalid (reason : String)
  deriving DecidableEq, Repr

namespace Setting

def word : Setting → String
  | .name => "NAME"
  | .nameSpace => "NAMESPACE"
  | .namespaceFile => "NAMESPACE_FILE"
  | .electionId => "ELECTION_ID"
  | .leaseDuration => "LEASE_DURATION"
  | .renewDeadline => "RENEW_DEADLINE"
  | .retryPeriod => "RETRY_PERIOD"
  | .releaseOnCancel => "RELEASE_ON_CANCEL"
  | .backend => "BACKEND"
  | .natsServers => "NATS_SERVERS"
  | .natsBucket => "NATS_BUCKET"
  | .natsSecurityMode => "NATS_SECURITY_MODE"
  | .natsUsername => "NATS_USERNAME"
  | .natsPassword => "NATS_PASSWORD"
  | .natsToken => "NATS_TOKEN"
  | .natsNkeySeedPath => "NATS_NKEY_SEED_PATH"
  | .natsTlsCertPath => "NATS_TLS_CERT_PATH"
  | .natsTlsKeyPath => "NATS_TLS_KEY_PATH"
  | .natsTlsCaPath => "NATS_TLS_CA_PATH"
  | .natsCredsFilePath => "NATS_CREDS_FILE_PATH"
  | .natsConnectRetryMax => "NATS_CONNECT_RETRY_MAX"
  | .natsRequestTimeout => "NATS_REQUEST_TIMEOUT"
  | .externalApi => "EXTERNAL_API"
  | .threadName => "THREAD_NAME"
  | .threads => "THREADS"
  | .logFilter => "LEASEHOLD_LOG"

def all : List Setting :=
  [.name, .nameSpace, .namespaceFile, .electionId, .leaseDuration, .renewDeadline, .retryPeriod,
    .releaseOnCancel, .backend, .natsServers, .natsBucket, .natsSecurityMode, .natsUsername,
    .natsPassword, .natsToken, .natsNkeySeedPath, .natsTlsCertPath, .natsTlsKeyPath, .natsTlsCaPath,
    .natsCredsFilePath, .natsConnectRetryMax, .natsRequestTimeout, .externalApi, .threadName,
    .threads, .logFilter]

def flag (s : Setting) : String :=
  String.ofList (s.word.toList.map fun c => if c = '_' then '-' else c.toLower)

def ofFlag? (flag : String) : Option Setting := all.find? fun s => s.flag = flag

def environmentName : Setting → String
  | .name => "ELECTION_NAME"
  | .nameSpace => "ELECTION_NAMESPACE"
  | s => s.word

def usage (s : Setting) : String := "--" ++ s.flag ++ " <" ++ s.word ++ ">"

def choices : Setting → List String
  | .releaseOnCancel => ["true", "false"]
  | .backend => ["memory", "nats"]
  | _ => []

def Repeats (s : Setting) : Prop := s = .natsServers

instance (s : Setting) : Decidable s.Repeats := inferInstanceAs (Decidable (s = .natsServers))

end Setting

namespace ValueFault

def natural (limit : Nat) (value : String) : Except ValueFault Nat :=
  (Numeral.natural limit value.toList).mapError fun fault => .invalid fault.message

def seconds (value : String) : Except ValueFault Duration :=
  (natural (UInt64.size - 1) value).map Duration.ofSeconds

/-- A number of 32 bits; one that is no number of 64 bits is told apart from one out of range. -/
def word (value : String) : Except ValueFault Nat :=
  match Numeral.integer 64 value.toList with
  | .error fault => .error (.invalid fault.message)
  | .ok n =>
    if 0 ≤ n ∧ n < UInt32.size then .ok n.toNat
    else .error (.invalid (Decimal.signedText n ++ " is not in 0..=4294967295"))

def path (value : String) : Except ValueFault String :=
  if value = "" then .error .missing else .ok value

def choice (named : List (String × α)) (value : String) : Except ValueFault α :=
  match named.lookup value with
  | some a => .ok a
  | none => .error (if value = "" then .missing else .notAChoice)

end ValueFault

namespace Settings

open ValueFault

def withElection (s : Settings) (set : ElectionConfig → ElectionConfig) : Settings :=
  { s with election := set s.election }

def withBroker (s : Settings) (set : BrokerConfig → BrokerConfig) : Settings :=
  { s with broker := set s.broker }

/-- The settings when an option has been given a value. Servers that are given `again` add to those
given before. -/
def set (s : Settings) (again : Bool) (value : String) : Setting → Except ValueFault Settings
  | .name => return s.withElection fun c => { c with name := value }
  | .nameSpace => return s.withElection fun c => { c with nameSpace := value }
  | .namespaceFile => do
    let path ← path value
    return s.withElection fun c => { c with namespaceFile := path }
  | .electionId => return s.withElection fun c => { c with identity := value }
  | .leaseDuration => do
    let lease ← seconds value
    return s.withElection fun c => { c with lease }
  | .renewDeadline => do
    let renewDeadline ← seconds value
    return s.withElection fun c => { c with renewDeadline }
  | .retryPeriod => do
    let retryPeriod ← seconds value
    return s.withElection fun c => { c with retryPeriod }
  | .releaseOnCancel => do
    let releaseOnCancel ← choice [("true", true), ("false", false)] value
    return s.withElection fun c => { c with releaseOnCancel }
  | .backend => do
    let backend ← choice [("memory", Backend.memory), ("nats", .nats)] value
    return { s with backend }
  | .natsServers =>
    let servers := (Text.fields ',' value.toList).map String.ofList
    return s.withBroker fun c =>
      { c with servers := if again then c.servers ++ servers else servers }
  | .natsBucket => return s.withBroker fun c => { c with bucket := value }
  | .natsSecurityMode => do
    let securityMode ← (SecurityMode.parse value).mapError fun e => .invalid e.message
    return s.withBroker fun c => { c with securityMode }
  | .natsUsername => return s.withBroker fun c => { c with username := some value }
  | .natsPassword => return s.withBroker fun c => { c with password := some value }
  | .natsToken => return s.withBroker fun c => { c with token := some value }
  | .natsNkeySeedPath => do
    let path ← path value
    return s.withBroker fun c => { c with nkeySeedPath := some path }
  | .natsTlsCertPath => do
    let path ← path value
    return s.withBroker fun c => { c with tlsCertPath := some path }
  | .natsTlsKeyPath => do
    let path ← path value
    return s.withBroker fun c => { c with tlsKeyPath := some path }
  | .natsTlsCaPath => do
    let path ← path value
    return s.withBroker fun c => { c with tlsCaPath := some path }
  | .natsCredsFilePath => do
    let path ← path value
    return s.withBroker fun c => { c with credsFilePath := some path }
  | .natsConnectRetryMax => do
    let connectRetryMax ← word value
    return s.withBroker fun c => { c with connectRetryMax }
  | .natsRequestTimeout => do
    let millis ← natural (UInt64.size - 1) value
    return s.withBroker fun c => { c with requestTimeout := some (.ofMillis millis) }
  | .externalApi =>
    match SocketAddress.ofText? value with
    | some endpoint => return { s with endpoint }
    | none => throw (.invalid "invalid socket address syntax")
  | .threadName => return { s with threadName := value }
  | .threads => do
    let threads ← natural (UInt64.size - 1) value
    return { s with threads := some threads }
  | .logFilter => return { s with logFilter := value }

end Settings

end LeaseElection
