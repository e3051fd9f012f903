import LeaseElection.Election.Metrics
import LeaseElection.Text.Binary64

namespace LeaseElection.Exposition

def escapedChar (c : Char) : List Char :=
  if c = '\\' ∨ c = '"' then ['\\', c] else if c = '\n' then ['\\', 'n'] else [c]

def escaped (label : String) : String := String.ofList (label.toList.flatMap escapedChar)

/-- The double nearest to a number, in full and with the fewest digits that tell it apart from other
doubles. -/
def nearest (n : Nat) : String :=
  match Binary64.round? n 1 with
  | none => "inf"
  | some x =>
    if x.significand = 0 then "0"
    else
      let (digits, zeros) := x.shortest
      String.ofList (digits ++ List.replicate zeros.toNat '0')

def reading (value : Int) : String :=
  if value < 0 then "-" ++ nearest value.natAbs else nearest value.natAbs

def heading (name help kind : String) : String :=
  "# HELP " ++ name ++ " " ++ help ++ "\n# TYPE " ++ name ++ " " ++ kind ++ "\n"

def family (m : Metrics) (metric : Metric) : String :=
  let series (election : String) : String :=
    metric.name ++ "\x7belection=\"" ++ escaped election ++ "\"\x7d "
      ++ reading (m.read metric election) ++ "\n"
  match m.elections metric with
  | [] => ""
  | elections =>
    heading metric.name metric.help (if metric.IsCounter then "counter" else "gauge")
      ++ String.join (elections.map series)

def text (m : Metrics) (uptime : Nat) : String :=
  String.join (Metric.all.map (family m)) ++ heading "uptime" "server uptime (seconds)" "gauge"
    ++ "uptime " ++ reading uptime ++ "\n"

end LeaseElection.Exposition
