import LeaseElection.Host.Log
import LeaseElection.Json.Decode
import LeaseElection.Json.Printer

namespace LeaseElection

/-- Whether the process says that it is well. -/
inductive Health where
  | good
  | bad
  deriving DecidableEq, Repr

namespace Health

def text : Health → String
  | .good => "GOOD"
  | .bad => "BAD"

def json (h : Health) : Json.Value := .string h.text

def ofJson (text : String) : Except Json.Fault Health :=
  Json.Reader.decode (Json.Reader.choice [("GOOD", .good), ("BAD", .bad)]) (Text.glyphs text)

end Health

inductive Method where
  | get
  | head
  | other
  deriving DecidableEq, Repr

namespace Method

def ofName (name : String) : Method :=
  if name = "GET" then .get else if name = "HEAD" then .head else .other

end Method

inductive Body where
  | text (text : String)
  /-- The metrics in their binary form, which is not spelled out. -/
  | encodedMetrics
  deriving DecidableEq, Repr

def Body.text? : Body → Option String
  | .text t => some t
  | .encodedMetrics => none

def Body.IsEmpty (b : Body) : Prop := b = .text ""

instance (b : Body) : Decidable b.IsEmpty := inferInstanceAs (Decidable (b = .text ""))

structure Response where
  status : Nat
  contentType : Option String
  /-- The methods that the path allows, when the one used is none of them. -/
  allow : Option String
  body : Body
  deriving DecidableEq, Repr

namespace Response

def ofStatus (status : Nat) : Response := ⟨status, none, none, .text ""⟩

def ofBody (contentType : String) (body : Body) : Response := ⟨200, some contentType, none, body⟩

/-- The answer where something failed: what is known of it at the outermost place. -/
def ofFailure (failure : Failure) : Response :=
  ⟨500, some "text/plain; charset=utf-8", none, .text failure.text⟩

def withoutBody (r : Response) : Response := { r with body := .text "" }

end Response

end LeaseElection
