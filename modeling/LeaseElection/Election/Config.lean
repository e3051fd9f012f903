import LeaseElection.Lock.Key
import LeaseElection.Text.Basic
import LeaseElection.Time.Duration

namespace LeaseElection

/-- What a participant is told about its election. -/
structure ElectionConfig where
  /-- The participant's identity; if blank, one is made up. -/
  identity : String
  /-- The namespace of the lock record; if blank, it is read from a file. -/
  nameSpace : String
  name : String
  lease : Duration
  /-- How long a leader goes on without a renewal. -/
  renewDeadline : Duration
  retryPeriod : Duration
  /-- Whether the lease is given up when the participant is cancelled. -/
  releaseOnCancel : Bool
  namespaceFile : String
  deriving DecidableEq, Repr

/-- Why a configuration is refused. -/
inductive ConfigError where
  | nameRequired
  | retryPeriodZero
  | renewDeadlineTooShort (renewDeadline retryPeriod : Duration)
  | leaseTooShort (lease renewDeadline : Duration)
  /-- Twice the retry period is longer than any duration. -/
  | retryPeriodOverflow
  | hostNameUnreadable (reason : String)
  | hostNameBlank
  | namespaceUnreadable (path reason : String)
  | namespaceBlank (path : String)
  deriving DecidableEq, Repr

namespace ConfigError

def reason : ConfigError → String
  | .nameRequired => "record_name is required"
  | .retryPeriodZero => "retry_period must be greater than zero"
  | .renewDeadlineTooShort renewDeadline retryPeriod =>
      "renew_deadline (" ++ renewDeadline.text ++ ") must be greater than retry_period ("
        ++ retryPeriod.text ++ ")"
  | .leaseTooShort lease renewDeadline =>
      "lease_duration (" ++ lease.text ++ ") must be greater than renew_deadline ("
        ++ renewDeadline.text ++ ")"
  | .retryPeriodOverflow => "overflow when multiplying duration by scalar"
  | .hostNameUnreadable reason => "unable to resolve local hostname: " ++ reason
  | .hostNameBlank => "local hostname is empty; set an explicit election id"
  | .namespaceUnreadable path reason =>
      "unable to find the namespace of this process (reading '" ++ path ++ "': " ++ reason
        ++ "); set the record namespace explicitly when running outside the cluster"
  | .namespaceBlank path =>
      "namespace file '" ++ path ++ "' is empty; set the record namespace explicitly"

/-- Whether the check itself fails, so that there is no verdict on the configuration. -/
def IsCrash (e : ConfigError) : Prop := e = .retryPeriodOverflow

instance (e : ConfigError) : Decidable e.IsCrash :=
  inferInstanceAs (Decidable (e = .retryPeriodOverflow))

def message (e : ConfigError) : String :=
  if e.IsCrash then e.reason else "configuration error: " ++ e.reason

end ConfigError

namespace ElectionConfig

/-- The configuration that says nothing but the usual timings. -/
def default : ElectionConfig where
  identity := ""
  nameSpace := ""
  name := ""
  lease := .ofSeconds 15
  renewDeadline := .ofSeconds 10
  retryPeriod := .ofSeconds 2
  releaseOnCancel := true
  namespaceFile := "/var/run/secrets/kubernetes.io/serviceaccount/namespace"

def key (c : ElectionConfig) : RecordKey := ⟨c.nameSpace, c.name⟩

def validate (c : ElectionConfig) : Except ConfigError Unit :=
  if Text.AllBlank c.name then .error .nameRequired
  else if c.retryPeriod = ⟨0⟩ then .error .retryPeriodZero
  else if c.renewDeadline ≤ c.retryPeriod then
    .error (.renewDeadlineTooShort c.renewDeadline c.retryPeriod)
  else if c.lease ≤ c.renewDeadline then .error (.leaseTooShort c.lease c.renewDeadline)
  else if Duration.max.nanoseconds < 2 * c.retryPeriod.nanoseconds then .error .retryPeriodOverflow
  else .ok ()

def IsTight (c : ElectionConfig) : Prop :=
  c.renewDeadline.nanoseconds < 2 * c.retryPeriod.nanoseconds

instance (c : ElectionConfig) : Decidable c.IsTight :=
  inferInstanceAs (Decidable (c.renewDeadline.nanoseconds < 2 * c.retryPeriod.nanoseconds))

def tightWarning : String :=
  "renew_deadline is less than twice retry_period; a single slow renewal may cause stepping down"

/-- What the check warns of: tightness, if the configuration is accepted. -/
def warnings (c : ElectionConfig) : List String :=
  match c.validate with
  | .ok _ => if c.IsTight then [tightWarning] else []
  | .error _ => []

end ElectionConfig

end LeaseElection
