import LeaseElection.Election.Status
import LeaseElection.Endpoint.Exposition
import LeaseElection.Endpoint.Response
import LeaseElection.Host.Log

namespace LeaseElection

structure Endpoint where
  health : Health
  status : ElectionStatus
  running : Bool
  stoppable : Bool
  deriving DecidableEq, Repr

namespace Endpoint

inductive Resource where
  | health
  | ping
  | leader
  | metrics
  | metricsText
  deriving DecidableEq, Repr

/-- The resource that a path names. What follows a question mark or a hash does not matter. -/
def Resource.ofTarget? (target : String) : Option Resource :=
  let path := String.ofList (target.toList.takeWhile fun c => c ≠ '?' ∧ c ≠ '#')
  [("/health", .health), ("/ping", .ping), ("/leader", .leader), ("/metrics", .metrics),
    ("/metrics-text", .metricsText)].lookup path

def start (status : ElectionStatus) (addressTaken stoppable : Bool) : Endpoint × List LogLine :=
  (⟨.bad, status, !addressTaken, stoppable⟩,
    if addressTaken then [.error "external API task returned with error"] else [])

def content (e : Endpoint) (metrics : Metrics) (uptime : Nat) : Resource → Response
  | .health => .ofStatus (match e.health with | .good => 200 | .bad => 500)
  | .ping => .ofStatus 200
  | .leader => .ofBody "application/json" (.text e.status.json.text)
  | .metrics =>
    .ofBody "application/vnd.google.protobuf; proto=io.prometheus.client.MetricFamily; encoding=delimited"
      .encodedMetrics
  | .metricsText => .ofBody "text/plain; version=0.0.4" (.text (Exposition.text metrics uptime))

def answer (e : Endpoint) (metrics : Metrics) (uptime : Nat) (method : Method) (target : String) :
    Option Response :=
  if !e.running then none
  else
    match Resource.ofTarget? target, method with
    | none, _ => some (.ofStatus 404)
    | some resource, .get => some (e.content metrics uptime resource)
    | some resource, .head => some (e.content metrics uptime resource).withoutBody
    | some _, .other => some { Response.ofStatus 405 with allow := some "GET,HEAD" }

def heed (e : Endpoint) (health : Health) : Bool × Endpoint :=
  if e.running then (true, { e with health }) else (false, e)

def follow (e : Endpoint) (status : ElectionStatus) : Bool × Endpoint :=
  if e.running then (true, { e with status }) else (false, e)

def stop (e : Endpoint) : Endpoint := { e with running := e.running && !e.stoppable }

end Endpoint

end LeaseElection
