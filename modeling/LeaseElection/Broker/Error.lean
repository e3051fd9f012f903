import LeaseElection.Lock.Error

namespace LeaseElection

inductive BrokerError where
  | transport (reason : String)
  | timeout (reason : String)
  | config (reason : String)
  | notConnected (reason : String)
  deriving DecidableEq, Repr

namespace BrokerError

def message : BrokerError → String
  | .transport reason => "transport error: " ++ reason
  | .timeout reason => "timeout: " ++ reason
  | .config reason => "configuration error: " ++ reason
  | .notConnected reason => "not connected: " ++ reason

def kind : BrokerError → String
  | .transport _ => "Transport"
  | .timeout _ => "Timeout"
  | .config _ => "Config"
  | .notConnected _ => "NotConnected"

def ofKind? (kind text : String) : Option BrokerError :=
  match kind with
  | "Transport" => some (.transport text)
  | "Timeout" => some (.timeout text)
  | "Config" => some (.config text)
  | "NotConnected" => some (.notConnected text)
  | _ => none

def IsRetryable : BrokerError → Prop
  | .config _ => False
  | _ => True

instance (e : BrokerError) : Decidable e.IsRetryable := by
  cases e <;> unfold IsRetryable <;> infer_instance

def toStoreError : BrokerError → StoreError
  | .timeout reason => .timeout reason
  | e => .unavailable e.message

end BrokerError

end LeaseElection
