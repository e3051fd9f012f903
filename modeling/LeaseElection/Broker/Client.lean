import LeaseElection.Broker.Address
import LeaseElection.Broker.Config
import LeaseElection.Host.Log

/-!
# Clients of a broker

A client keeps a connection, or none, and remembers the state it is in. To connect it makes one
attempt and, while attempts fail, as many more as it is told, with a pause that doubles from one
second up to thirty. Once a connection is kept, the broker's own library looks after it, and the
state shown is that of the link.
-/
namespace LeaseElection

inductive ConnectionState where
  | connected
  /-- A connection is being established, perhaps anew. -/
  | reconnecting
  /-- There is no connection, and none is being established. -/
  | disconnected
  deriving DecidableEq, Repr

def ConnectionState.text : ConnectionState → String
  | .connected => "Connected"
  | .reconnecting => "Reconnecting"
  | .disconnected => "Disconnected"

structure BrokerClient where
  config : BrokerConfig
  linked : Bool
  state : ConnectionState
  deriving DecidableEq, Repr

structure ConnectReport where
  result : Except BrokerError Unit
  attempts : Nat
  pauses : List Duration
  logs : List LogLine

namespace ConnectReport

def waited (r : ConnectReport) : Duration := .total r.pauses

/-- The report when one more attempt and the pause after it came first. -/
def afterPause (r : ConnectReport) (pause : Duration) : ConnectReport :=
  { r with
    pauses := pause :: r.pauses
    logs := .warn "NATS connection attempt failed, retrying" :: r.logs }

end ConnectReport

namespace BrokerClient

def new (config : BrokerConfig) : BrokerClient := ⟨config, false, .disconnected⟩

def defaultRequestTimeout : Duration := .ofSeconds 2

def requestTimeout (c : BrokerClient) : Duration :=
  c.config.requestTimeout.getD defaultRequestTimeout

def inspect (c : BrokerClient) : String :=
  "NatsClient \x7b request_timeout: " ++ c.requestTimeout.text ++ ", .. \x7d"

def firstPause : Duration := .ofSeconds 1

def longestPause : Duration := .ofSeconds 30

/-- The pause after a failed attempt that this many failed attempts preceded. The power of two is
that of a word of 32 bits, which stays at the greatest word. -/
def pauseAfter (failed : Nat) : Duration :=
  (firstPause.saturatingMul (min (Nat.pow 2 failed) (UInt32.size - 1))).atMost longestPause

def maxAttempts (config : BrokerConfig) : Nat := min (config.connectRetryMax + 1) (UInt32.size - 1)

def setState (c : BrokerClient) (state : ConnectionState) : BrokerClient :=
  { c with state := state }

/-- The client when it begins to connect: a connection that it still kept is given up. -/
def beginConnecting (c : BrokerClient) : BrokerClient :=
  { c with linked := false, state := .reconnecting }

def keepConnection (c : BrokerClient) : BrokerClient :=
  { c with linked := true, state := .connected }

def disconnect (c : BrokerClient) : BrokerClient :=
  { c with linked := false, state := .disconnected }

def transportReason (total : Nat) (reason : String) : String :=
  "NATS connection failed after " ++ Decimal.text total ++ " attempt(s): " ++ reason

/-- Makes attempts until one succeeds or their number is reached. The options are made anew before
each attempt, and if that fails no attempt is made any more. -/
def attemptFrom (total : Nat) (options : Nat → Except BrokerError Unit)
    (attempt : Nat → Except String Unit) (failed : Nat) (c : BrokerClient) :
    ConnectReport × BrokerClient :=
  match options failed with
  | .error e => (⟨.error e, failed, [], []⟩, c.setState .disconnected)
  | .ok _ =>
    match attempt failed with
    | .ok _ => (⟨.ok (), failed + 1, [], []⟩, c.keepConnection)
    | .error reason =>
      if failed + 1 < total then
        let (later, c) := attemptFrom total options attempt (failed + 1) c
        (later.afterPause (pauseAfter failed), c)
      else
        (⟨.error (.transport (transportReason total reason)), failed + 1, [],
          [.error "NATS connection failed after all retry attempts"]⟩, c.setState .disconnected)
termination_by total - failed

/-- Connects, unless the client remembers that it is connected. A configuration that is refused
changes nothing. -/
def connect (c : BrokerClient) (options : Nat → Except BrokerError Unit)
    (attempt : Nat → Except String Unit) : ConnectReport × BrokerClient :=
  if c.state = .connected then (⟨.ok (), 0, [], []⟩, c)
  else
    match c.config.validate with
    | .error e => (⟨.error e, 0, [], []⟩, c)
    | .ok _ => attemptFrom (maxAttempts c.config) options attempt 0 c.beginConnecting

def context (c : BrokerClient) : Except BrokerError Unit :=
  if c.linked then .ok () else .error (.notConnected "NATS client not connected")

def shownState (c : BrokerClient) (up : Bool) : ConnectionState :=
  if c.linked then (if up then .connected else .reconnecting) else c.state

/-- The outcome of one attempt: the connection is established in the background, so that nothing
but an address that names no broker makes it fail. -/
def dial (config : BrokerConfig) : Except String Unit :=
  match config.servers.mapM Address.check with
  | .ok _ => .ok ()
  | .error fault => .error ("failed to parse server or server list: " ++ fault.message)

end BrokerClient

end LeaseElection
