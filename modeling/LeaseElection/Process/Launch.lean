import LeaseElection.Bucket.Offline
import LeaseElection.Election.Resolution
import LeaseElection.Process.Step
import LeaseElection.Settings.Arguments

namespace LeaseElection

/-- What a process finds when it is started. -/
structure LaunchSite where
  files : Files
  surroundings : Surroundings
  addressTaken : Bool

/-- A process that was launched, and how long its calls to the broker may take if it keeps its
records there. -/
structure Launched where
  process : Process
  timeLimit : Option Duration

/-- Why a process could not be launched. -/
inductive LaunchFault where
  | usage (error : UsageError)
  | noThreads
  | brokerUnusable (error : BrokerError)
  | configRefused (error : ConfigError)
  deriving DecidableEq, Repr

namespace LaunchFault

def status : LaunchFault → ExitStatus
  | .usage .help => .success
  | .usage _ => .usage
  | .noThreads => .crashed
  | .brokerUnusable _ | .configRefused _ => .failure

def message : LaunchFault → String
  | .usage e => e.message
  | .noThreads => "Worker threads cannot be set to 0"
  | .brokerUnusable e => "NATS connection failed: " ++ e.message
  | .configRefused e => "invalid election config: " ++ e.message

end LaunchFault

namespace LaunchSite

/-- Connects to a broker and opens the bucket there; without a broker in reach that fails. -/
def openBroker (site : LaunchSite) (config : BrokerConfig) (broker : Option BucketHost) :
    Except BrokerError Duration × Option BucketHost :=
  let options := (Credentials.ofConfig site.files config).map fun _ => ()
  let (report, client) := (BrokerClient.new config).connect (fun _ => options)
    fun _ => BrokerClient.dial config
  match report.result with
  | .error e => (.error e, broker)
  | .ok _ =>
    let (opened, after) := (broker.getD OfflineClient.unreachable).openBucket client
    (opened.result.map fun _ => client.requestTimeout, broker.map fun _ => after)

def enter (site : LaunchSite) (c : ElectionConfig) (timeLimit : Option Duration) (now : Nat) :
    Except LaunchFault Launched :=
  match c.resolve site.surroundings with
  | .ok config => .ok ⟨.new config timeLimit.isSome site.addressTaken now, timeLimit⟩
  | .error e => .error (.configRefused e)

def launchWith (site : LaunchSite) (s : Settings) (broker : Option BucketHost) (now : Nat) :
    Except LaunchFault Launched × Option BucketHost :=
  if s.threads = some 0 then (.error .noThreads, broker)
  else
    match s.backend with
    | .memory => (site.enter s.election none now, broker)
    | .nats =>
      match site.openBroker s.broker broker with
      | (.ok timeLimit, broker) => (site.enter s.election (some timeLimit) now, broker)
      | (.error e, broker) => (.error (.brokerUnusable e), broker)

def launch (site : LaunchSite) (arguments : List String) (environment : List (String × String))
    (broker : Option BucketHost) (now : Nat) : Except LaunchFault Launched × Option BucketHost :=
  match Settings.ofArguments arguments environment with
  | .ok settings => site.launchWith settings broker now
  | .error e => (.error (.usage e), broker)

end LaunchSite

end LeaseElection
