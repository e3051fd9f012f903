import LeaseElection.Broker.Error
import LeaseElection.Text.Basic
import LeaseElection.Time.Duration

namespace LeaseElection

open LeaseElection.Json

/-- How a participant logs in to the broker. -/
inductive SecurityMode where
  | none
  | userPassword
  | token
  | nkey
  | tls
  | credsFile
  deriving DecidableEq, Repr

namespace SecurityMode

def text : SecurityMode → String
  | .none => "none"
  | .userPassword => "user_password"
  | .token => "token"
  | .nkey => "nkey"
  | .tls => "tls"
  | .credsFile => "creds_file"

def named : List (String × SecurityMode) :=
  [.none, .userPassword, .token, .nkey, .tls, .credsFile].map fun mode => (mode.text, mode)

/-- The name that a text is taken for: without blanks around it, in lower case, and with underscores
for hyphens. -/
def normalized (s : String) : String :=
  String.ofList ((Text.trim s.toList).map fun c => if c = '-' then '_' else c.toLower)

def parse (s : String) : Except BrokerError SecurityMode :=
  match named.lookup (normalized s) with
  | some mode => .ok mode
  | Option.none => .error (.config ("unknown NATS security mode '" ++ normalized s ++ "'"))

def json (mode : SecurityMode) : Value := .string mode.text

def reader : Reader SecurityMode := Reader.choice named

def ofJson (text : String) : Except Fault SecurityMode := Reader.decode reader (Text.glyphs text)

end SecurityMode

namespace Duration

def json (d : Duration) : Value :=
  .object [("secs", .natural d.seconds), ("nanos", .natural d.subsecond)]

structure Draft where
  seconds : Option Nat
  nanos : Option Nat

def shape : Reader.Shape Draft where
  expected := "struct Duration"
  expectedLength := "struct Duration"
  closed := true
  empty := ⟨none, none⟩
  fields := [
    ⟨"secs", false, fun d => d.seconds.isSome, fun d => do
      return { d with seconds := some (← Reader.natural 64 "u64") }⟩,
    ⟨"nanos", false, fun d => d.nanos.isSome, fun d => do
      return { d with nanos := some (← Reader.natural 32 "u32") }⟩]

def reader : Reader Duration :=
  Reader.structure? shape fun d =>
    let duration := ofParts (d.seconds.getD 0) (d.nanos.getD 0)
    if duration ≤ Duration.max then .ok duration else .error "overflow deserializing Duration"

end Duration

/-- Where the broker is, how to log in, and where it keeps the records. -/
structure BrokerConfig where
  servers : List String
  bucket : String
  /-- How many revisions of a record the bucket keeps. -/
  history : Int
  securityMode : SecurityMode
  username : Option String
  password : Option String
  token : Option String
  nkeySeedPath : Option String
  tlsCertPath : Option String
  tlsKeyPath : Option String
  tlsCaPath : Option String
  credsFilePath : Option String
  connectTimeout : Option Duration
  requestTimeout : Option Duration
  connectRetryMax : Nat
  deriving DecidableEq, Repr

namespace BrokerConfig

def default : BrokerConfig where
  servers := ["nats://127.0.0.1:4222"]
  bucket := "leader_election"
  history := 5
  securityMode := .none
  username := none
  password := none
  token := none
  nkeySeedPath := none
  tlsCertPath := none
  tlsKeyPath := none
  tlsCaPath := none
  credsFilePath := none
  connectTimeout := none
  requestTimeout := none
  connectRetryMax := 5

def BucketNameValid (name : String) : Prop :=
  name ≠ "" ∧ ∀ c ∈ name.toList, c.isAlphanum ∨ c = '-' ∨ c = '_'

instance (name : String) : Decidable (BucketNameValid name) :=
  @instDecidableAnd _ _ inferInstance
    (List.decidableBAll (fun c => c.isAlphanum ∨ c = '-' ∨ c = '_') name.toList)

def validate (c : BrokerConfig) : Except BrokerError Unit :=
  if ∀ server ∈ c.servers, Text.AllBlank server then
    .error (.config "at least one NATS server url is required")
  else if ¬ BucketNameValid c.bucket then
    .error (.config ("invalid KV bucket name '" ++ c.bucket ++ "': use letters, digits, '-' or '_'"))
  else if c.history < 1 ∨ 64 < c.history then
    .error (.config ("KV history must be between 1 and 64, got " ++ Decimal.signedText c.history))
  else .ok ()

def orNull (f : α → Value) : Option α → Value
  | some a => f a
  | none => .null

/-- The fields with their names, in order. -/
def members (c : BrokerConfig) : List (String × Value) := [
  ("servers", .array (c.servers.map .string)),
  ("bucket", .string c.bucket),
  ("history", .integer c.history),
  ("security_mode", c.securityMode.json),
  ("username", orNull .string c.username),
  ("password", orNull .string c.password),
  ("token", orNull .string c.token),
  ("nkey_seed_path", orNull .string c.nkeySeedPath),
  ("tls_cert_path", orNull .string c.tlsCertPath),
  ("tls_key_path", orNull .string c.tlsKeyPath),
  ("tls_ca_path", orNull .string c.tlsCaPath),
  ("creds_file_path", orNull .string c.credsFilePath),
  ("connect_timeout", orNull Duration.json c.connectTimeout),
  ("request_timeout", orNull Duration.json c.requestTimeout),
  ("connect_retry_max", .natural c.connectRetryMax)]

def json (c : BrokerConfig) : Value := .object c.members

/-- A configuration while it is being read: what has been read, over the defaults. -/
structure Draft where
  config : BrokerConfig
  read : List String

def field (name : String) (r : Reader α) (store : BrokerConfig → α → BrokerConfig) :
    Reader.Field Draft where
  name := name
  optional := true
  present d := d.read.contains name
  fill d := do return ⟨store d.config (← r), name :: d.read⟩

def text : Reader (Option String) := Reader.option Reader.string

def path : Reader (Option String) := Reader.option (Reader.stringAs "path string")

def fields : List (Reader.Field Draft) := [
  field "servers" (Reader.list Reader.string) fun c v => { c with servers := v },
  field "bucket" Reader.string fun c v => { c with bucket := v },
  field "history" (Reader.integer (-9223372036854775808) 9223372036854775807 "i64")
    fun c v => { c with history := v },
  field "security_mode" SecurityMode.reader fun c v => { c with securityMode := v },
  field "username" text fun c v => { c with username := v },
  field "password" text fun c v => { c with password := v },
  field "token" text fun c v => { c with token := v },
  field "nkey_seed_path" path fun c v => { c with nkeySeedPath := v },
  field "tls_cert_path" path fun c v => { c with tlsCertPath := v },
  field "tls_key_path" path fun c v => { c with tlsKeyPath := v },
  field "tls_ca_path" path fun c v => { c with tlsCaPath := v },
  field "creds_file_path" path fun c v => { c with credsFilePath := v },
  field "connect_timeout" (Reader.option Duration.reader) fun c v => { c with connectTimeout := v },
  field "request_timeout" (Reader.option Duration.reader) fun c v => { c with requestTimeout := v },
  field "connect_retry_max" (Reader.natural 32 "u32") fun c v => { c with connectRetryMax := v }]

def shape : Reader.Shape Draft where
  expected := "struct NatsStoreConfig"
  expectedLength := "struct NatsStoreConfig with 15 elements"
  closed := false
  empty := ⟨default, []⟩
  fields := fields

def reader : Reader BrokerConfig := Reader.structure? shape fun d => .ok d.config

def ofJson (text : String) : Except Fault BrokerConfig := Reader.decode reader (Text.glyphs text)

end BrokerConfig

end LeaseElection
