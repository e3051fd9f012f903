import LeaseElection.Broker.Credentials
import LeaseElection.Bucket.Open

/-!
# Clients out of reach of their broker

What a client's calls come to while no broker can be reached, and how long they take if nothing but
waiting takes time. No request is ever answered, and no link is ever up.
-/
namespace LeaseElection

inductive ClientCall where
  | connect
  | disconnect
  | context
  | openBucket
  | isConnected
  deriving DecidableEq, Repr

inductive ClientAnswer where
  | done (result : Except BrokerError Unit)
  | connected (yes : Bool)

/-- A client out of reach of its broker, and the files it reads its credentials from. -/
structure OfflineClient where
  client : BrokerClient
  files : Files
  elapsed : Duration

namespace OfflineClient

def new (files : Files) (config : BrokerConfig) : OfflineClient := ⟨.new config, files, ⟨0⟩⟩

def unreachable : BucketHost :=
  let silence : List RequestFault :=
    List.replicate (BucketHost.maxRetries + 1) ⟨[], RequestFate.silent⟩
  ⟨none, silence, silence, [], []⟩

def state (o : OfflineClient) : ConnectionState := o.client.shownState false

def wait (o : OfflineClient) (time : Duration) : OfflineClient :=
  { o with elapsed := ⟨o.elapsed.nanoseconds + time.nanoseconds⟩ }

def call (o : OfflineClient) : ClientCall → ClientAnswer × List LogLine × OfflineClient
  | .connect =>
    let (report, client) := o.client.connect (fun _ => Credentials.check o.files o.client.config)
      fun _ => BrokerClient.dial o.client.config
    (.done report.result, report.logs, { o with client }.wait report.waited)
  | .disconnect => (.done (.ok ()), [], { o with client := o.client.disconnect })
  | .context => (.done o.client.context, [], o)
  | .openBucket =>
    let (report, _) := unreachable.openBucket o.client
    (.done report.result, report.logs, o.wait report.elapsed)
  | .isConnected => (.connected (o.state = .connected), [], o)

end OfflineClient

end LeaseElection
