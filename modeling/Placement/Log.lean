import Placement.Roster
import Placement.Status

/-!
# What is logged

The lines that placement decisions write to the log, as data.

## Main definitions

* `Level` — how important a line is.
* `LogLine` — what a line reports.
* `LogLine.level`, `LogLine.text` — how it is written.
-/

namespace Placement

/-- How important a line is, from the least. -/
inductive Level where
  | trace
  | debug
  | info
  | warn
  | error
  deriving DecidableEq

/-- What a line of the log reports. -/
inductive LogLine where
  | governed (pod : Pod) (policy : Policy)
  | ungoverned (pod : Pod)
  | enlisted (pod : Pod) (roster : Roster)
  /-- A pod was taken off the roster of the policy of that name. -/
  | discharged (pod : Pod) (policy : String) (roster : Roster)
  /-- A node was let through for a pod. -/
  | fits (pod : Pod) (node : Node) (policy : Policy)
  | ruledOut (pod : Pod) (node : Node) (status : Status)
  /-- The policy chosen for a pod is gone or no longer selects it. -/
  | lapsed (pod : Pod) (ns name : String)
  | scored (pod : Pod) (node : Node) (policy : Policy) (score : Int) (managed : Bool)
  | normalized (pod : Pod) (scores : List NodeScore)

namespace LogLine

/-- The word for a truth value. -/
def yesNo (b : Bool) : String :=
  if b then "true" else "false"

/-- An integer in digits. -/
def digits (n : Int) : String :=
  String.ofList (Text.Decimal.write n)

/-- How many of a roster's pods it claims. -/
def tally (r : Roster) : String :=
  s!"target_met={yesNo r.targetMet} ({digits r.managed.size}/{digits r.qualified.size} managed)"

/-- How important a line is. -/
def level : LogLine → Level
  | governed .. => .debug
  | ungoverned .. => .debug
  | enlisted .. => .info
  | discharged .. => .info
  | fits .. => .trace
  | ruledOut .. => .debug
  | lapsed .. => .warn
  | scored .. => .trace
  | normalized .. => .debug

/-- The wording of a line. -/
def text : LogLine → String
  | governed pod policy =>
    s!"pod {pod.ns}/{pod.name} matched placement policy {policy.name} " ++
      s!"(weight {digits policy.weight.toInt})"
  | ungoverned pod => s!"no placement policy for pod {pod.ns}/{pod.name}"
  | enlisted pod roster =>
    s!"pod {pod.ns}/{pod.name} added to placement policy {roster.name}: " ++
      s!"managed={yesNo (roster.manages pod.uid)} {tally roster}"
  | discharged pod policy roster =>
    s!"pod {pod.ns}/{pod.name} removed from placement policy {policy}: {tally roster}"
  | fits pod node policy =>
    s!"pod {pod.name} fits node {node.name} under placement policy {policy.name}"
  | ruledOut pod node status =>
    s!"node {node.name} filtered out for pod {pod.name}: " ++
      s!"{Text.quotedList status.reasons} {status.err}"
  | lapsed pod ns name => s!"placement policy {ns}/{name} no longer applies to pod {pod.name}"
  | scored pod node policy score managed =>
    s!"pod {pod.name} scored {digits score} on node {node.name} " ++
      s!"(policy {policy.name}, managed {yesNo managed})"
  | normalized pod scores =>
    s!"normalized scores for pod {pod.name}: [" ++
      ", ".intercalate (scores.map NodeScore.shown) ++ "]"

end LogLine

end Placement
