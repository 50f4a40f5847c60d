import Placement.Cycle
import Placement.Log

/-!
# One scheduling attempt

The host takes a pod through the phases of a plugin: it rules nodes out, scores the
rest, and picks the best.  A plugin may keep a state of its own, which is handed
from call to call.

## Main definitions

* `Plugin σ` — the phases of a plugin with states of type `σ`.
* `best?` — the node with the highest score, the least name among equals.
* `schedule` — the attempt.
-/

namespace Placement

/-- The phases of a plugin.  Each takes the state of the plugin and gives it
back, together with its report. -/
structure Plugin (σ : Type) where
  /-- Looks at the pod before any node. -/
  preFilter : Pod → List Node → CycleState → σ → Status × CycleState × σ
  /-- Tells whether a node is possible at all. -/
  filter : Pod → Node → CycleState → σ → Status × σ
  /-- Looks at the possible nodes before any is scored. -/
  preScore : Pod → List Node → CycleState → σ → Status × CycleState × σ
  /-- Scores a possible node. -/
  score : Pod → Node → CycleState → σ → (Int × Status) × σ
  /-- Brings the scores onto one scale, if the plugin does that. -/
  normalize : Option (Pod → List NodeScore → CycleState → σ → (List NodeScore × Status) × σ)
  log : LogLine → σ → σ

namespace Host

variable {σ α β : Type}

/-- Applies a step to each element in order, handing on the state. -/
def through (step : α → σ → β × σ) : List α → σ → List β × σ
  | [], s => ([], s)
  | a :: rest, s =>
    let (b, s) := step a s
    let (bs, s) := through step rest s
    (b :: bs, s)

/-- Whether a node score goes before another: it is higher, or as high and of a
lesser name. -/
def beats (a b : NodeScore) : Bool :=
  b.score < a.score || (a.score == b.score && a.name < b.name)

/-- A score that none of the others beats. -/
def best? : List NodeScore → Option NodeScore
  | [] => none
  | s :: rest =>
    match best? rest with
    | none => some s
    | some other => if beats other s then some other else some s

/-- Asks the plugin about every node, and logs those it rules out. -/
def feasible (plugin : Plugin σ) (pod : Pod) (nodes : List Node) (cycle : CycleState) (s : σ) :
    List Node × σ :=
  let (statuses, s) := through (fun node => plugin.filter pod node cycle) nodes s
  let judged := nodes.zip statuses
  let ruledOut := judged.filter fun (_, status) => !status.isSuccess
  let kept := judged.filter fun (_, status) => status.isSuccess
  (kept.map (·.1), ruledOut.foldl (fun s (node, status) => plugin.log (.ruledOut pod node status) s) s)

/-- The scores, unless the plugin fails to give one; then the first report of that. -/
def collect : List (Node × (Int × Status)) → Except Status (List NodeScore)
  | [] => .ok []
  | (node, score, status) :: rest =>
    if status.isSuccess then (collect rest).map (⟨node.name, score⟩ :: ·) else .error status

/-- Scores every possible node, and lets the plugin bring the scores onto one
scale. -/
def scores (plugin : Plugin σ) (pod : Pod) (nodes : List Node) (cycle : CycleState) (s : σ) :
    Except Status (List NodeScore) × σ :=
  let (results, s) := through (fun node => plugin.score pod node cycle) nodes s
  match collect (nodes.zip results) with
  | .error status => (.error status, s)
  | .ok raw =>
    match plugin.normalize with
    | none => (.ok raw, s)
    | some normalize =>
      let ((scaled, status), s) := normalize pod raw cycle s
      (if status.isSuccess then .ok scaled else .error status, s)

/-- The assignment of a pod to the best of the scored nodes. -/
def assign (pod : Pod) (scores : List NodeScore) : Assignment where
  pod := pod.name
  node := ((best? scores).map (·.name)).getD ""
  scores := scores

/-- The report that none of `count` nodes is possible. -/
def noneAvailable (count : Nat) : Status :=
  .unschedulable [s!"0/{LogLine.digits count} nodes are available"]

/-- One attempt to place a pod on one of the nodes.  The first phase that fails
ends it, except that a node that is ruled out only drops out. -/
def schedule (plugin : Plugin σ) (pod : Pod) (nodes : List Node) (s : σ) :
    Except Status Assignment × σ :=
  let (status, cycle, s) := plugin.preFilter pod nodes ∅ s
  if !status.isSuccess then (.error status, s) else
  let (possible, s) := feasible plugin pod nodes cycle s
  if possible.isEmpty then (.error (noneAvailable nodes.length), s) else
  let (status, cycle, s) := plugin.preScore pod possible cycle s
  if !status.isSuccess then (.error status, s) else
  let (scored, s) := scores plugin pod possible cycle s
  (scored.map (assign pod), s)

end Host

end Placement
