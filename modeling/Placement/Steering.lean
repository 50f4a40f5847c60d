import Placement.Host
import Placement.Membership

/-!
# Steering pods by placement policies

The plugin that carries placement policies into scheduling.  Under a strict policy
a pod goes onto the roster before any node is looked at, and nodes on the wrong
side are ruled out.  Under a best-effort policy it goes onto the roster before
scoring, and nodes on the right side only score higher.  The right side for a pod
that the roster claims is a node that the policy selects, and any other node for
the rest.

## Main definitions

* `Desk` — what the plugin works on: the registry, and the log so far.
* `Decision.agrees` — the node is on the right side.
* `preFilter`, `filter`, `preScore`, `score`, `rescale` — the phases.
* `plugin` — all of them together.
-/

namespace Placement

/-- What decisions work on: the rosters, and the lines logged so far. -/
structure Desk where
  registry : Registry := ∅
  /-- The lines logged so far, the first one first. -/
  log : List LogLine := []

namespace Desk

/-- Logs a line. -/
def note (desk : Desk) (line : LogLine) : Desk :=
  { desk with log := desk.log ++ [line] }

@[simp] theorem registry_note (desk : Desk) (line : LogLine) :
    (desk.note line).registry = desk.registry := rfl

/-- The policy that governs a pod, and the line that says so. -/
def policyFor (desk : Desk) (view : View) (pod : Pod) :
    Except PlacementError (Option Policy) × Desk :=
  match view.policyFor pod with
  | .error e => (.error e, desk)
  | .ok none => (.ok none, desk.note (.ungoverned pod))
  | .ok (some policy) => (.ok (some policy), desk.note (.governed pod policy))

/-- The roster of a policy under its present body. -/
def rosterOf (desk : Desk) (policy : Policy) : Except PlacementError Roster × Desk :=
  let (roster, registry) := Membership.rosterOf desk.registry policy
  (roster, { desk with registry := registry })

/-- Puts a pod on a roster, and logs it. -/
def join (desk : Desk) (pod : Pod) (roster : Roster) : Except PlacementError Roster × Desk :=
  match Membership.join desk.registry pod roster with
  | .error e => (.error e, desk)
  | .ok (joined, registry) =>
    (.ok joined, { desk with registry := registry }.note (.enlisted pod joined))

/-- Takes a pod off the roster that holds it, and logs it if one does. -/
def leave (desk : Desk) (order : Registry.Order) (pod : Pod) :
    Except PlacementError Unit × Desk :=
  match Membership.leave order desk.registry pod with
  | .error e => (.error e, desk)
  | .ok (none, registry) => (.ok (), { desk with registry := registry })
  | .ok (some (name, roster), registry) =>
    (.ok (), { desk with registry := registry }.note (.discharged pod name roster))

end Desk

/-! ## Decisions -/

namespace Decision

/-- Whether the policy selects a node. -/
def selects (decision : Decision) (node : Node) : Bool :=
  node.labels.satisfies decision.policy.nodeSelector

/-- Whether the roster claims the pod for the selected nodes. -/
def managed (decision : Decision) : Bool :=
  decision.roster.manages decision.key

/-- Whether a node is on the right side for the pod. -/
def agrees (decision : Decision) (node : Node) : Bool :=
  decision.selects node == decision.managed

end Decision

namespace Steering

/-- The name of the plugin. -/
def name : String := "PlacementPolicy"

/-- The key under which an attempt remembers how far the pod got. -/
def stageKey : String := "PlacementPolicyPodState"

/-- The highest score a node can have in the end. -/
def maxScore : Int := 100

/-- The lowest score a node can have in the end. -/
def minScore : Int := 0

/-- Why a node that the policy does not select is ruled out. -/
def notSelected : String :=
  "node(s) didn't match the node selector of the pod's placement policy"

/-- Why a node that the policy selects is ruled out. -/
def alreadyMet : String :=
  "node(s) matched the node selector of the pod's placement policy, whose target is already met"

/-- A failure that the plugin reports under its name. -/
def failed (err : String) : Status :=
  (Status.failure err).signedBy name

/-- How far the pod got, if the attempt remembers it. -/
def stage? (cycle : CycleState) : Option Stage :=
  cycle.read stageKey .stage

/-- Remembers how far the pod got. -/
def setStage (cycle : CycleState) (stage : Stage) : CycleState :=
  cycle.write stageKey .stage stage

@[simp] theorem stage?_setStage (cycle : CycleState) (stage : Stage) :
    stage? (setStage cycle stage) = some stage :=
  CycleState.read_write_self ..

/-- The report that the attempt does not remember how far the pod got. -/
def stageMissing : Status :=
  failed (name ++ ": reading " ++ Text.quoted stageKey ++ " from cycle state")

/-! ## Phases -/

/-- Finds the policy that governs the pod.  Under a strict one the pod goes onto
the roster at once. -/
def preFilter (view : View) (pod : Pod) (cycle : CycleState) (desk : Desk) :
    Status × CycleState × Desk :=
  match desk.policyFor view pod with
  | (.error e, desk) =>
    (failed s!"failed to get placement policy for pod {pod.name}: {e.message}", cycle, desk)
  | (.ok none, desk) => (.success, setStage cycle .ungoverned, desk)
  | (.ok (some policy), desk) =>
    match pod.key with
    | .error e => (failed e.message, cycle, desk)
    | .ok key =>
      match desk.rosterOf policy with
      | (.error e, desk) =>
        (failed s!"failed to get policy info of {policy.ns}/{policy.name}: {e.message}",
          cycle, desk)
      | (.ok roster, desk) =>
        match policy.mode with
        | .bestEffort => (.success, setStage cycle (.chosen ⟨policy, roster, key⟩), desk)
        | .strict =>
          match desk.join pod roster with
          | (.error e, desk) =>
            (failed (s!"failed to add pod {pod.name} to placement policy " ++
              s!"{policy.name}: {e.message}"), cycle, desk)
          | (.ok roster, desk) => (.success, setStage cycle (.committed ⟨policy, roster, key⟩), desk)

/-- Rules out the nodes on the wrong side, for a pod that is on the roster. -/
def filter (pod : Pod) (node : Node) (cycle : CycleState) (desk : Desk) : Status × Desk :=
  match stage? cycle with
  | none => (stageMissing, desk)
  | some .ungoverned => (.success, desk)
  | some (.chosen _) => (.success, desk)
  | some (.committed decision) =>
    if decision.agrees node then (.success, desk.note (.fits pod node decision.policy))
    else
      let reason := if decision.managed then notSelected else alreadyMet
      ((Status.unschedulable [reason]).signedBy name, desk)

/-- The present version of a chosen policy, unless it no longer selects the pod. -/
def present? (view : View) (pod : Pod) (decision : Decision) :
    Except PlacementError (Option Policy) :=
  (view.policy? decision.policy.ns decision.policy.name).map
    (·.filter fun policy => policy.selects pod.labels)

/-- Puts a pod whose policy was only chosen so far onto the roster, under the
present version of the policy. -/
def preScore (view : View) (pod : Pod) (cycle : CycleState) (desk : Desk) :
    Status × CycleState × Desk :=
  match stage? cycle with
  | none => (stageMissing, cycle, desk)
  | some .ungoverned => (.success, cycle, desk)
  | some (.committed _) => (.success, cycle, desk)
  | some (.chosen decision) =>
    let ns := decision.policy.ns
    let policyName := decision.policy.name
    match present? view pod decision with
    | .error e =>
      (failed s!"failed to get placement policy {ns}/{policyName}: {e.message}", cycle, desk)
    | .ok none => (.success, setStage cycle .ungoverned, desk.note (.lapsed pod ns policyName))
    | .ok (some policy) =>
      match desk.rosterOf policy with
      | (.error e, desk) =>
        (failed s!"failed to get policy info of {ns}/{policyName}: {e.message}", cycle, desk)
      | (.ok roster, desk) =>
        match desk.join pod roster with
        | (.error e, desk) =>
          (failed (s!"failed to add pod {pod.name} to placement policy " ++
            s!"{policyName}: {e.message}"), cycle, desk)
        | (.ok roster, desk) =>
          (.success, setStage cycle (.committed ⟨policy, roster, decision.key⟩), desk)

/-- Scores a node by the side it is on. -/
def score (pod : Pod) (node : Node) (cycle : CycleState) (desk : Desk) : (Int × Status) × Desk :=
  match stage? cycle with
  | none => ((0, stageMissing), desk)
  | some .ungoverned => ((0, .success), desk)
  | some (.chosen _) =>
    ((0, failed s!"membership of pod {pod.name} was not committed before scoring"), desk)
  | some (.committed decision) =>
    let score := if decision.agrees node then maxScore else minScore
    ((score, .success), desk.note (.scored pod node decision.policy score decision.managed))

/-- The highest score, at least `floor`. -/
def highest (floor : Int) (scores : List NodeScore) : Int :=
  scores.foldl (fun high s => max high s.score) floor

/-- The lowest score, at most `ceiling`. -/
def lowest (ceiling : Int) (scores : List NodeScore) : Int :=
  scores.foldl (fun low s => min low s.score) ceiling

/-- Brings scores onto the scale from `minScore` to `maxScore`: the lowest to its
lower end, the highest to its upper end, the rest in proportion and rounded down.
Where all are equal, all come to the lower end. -/
def rescale (scores : List NodeScore) : List NodeScore :=
  match scores with
  | [] => []
  | first :: rest =>
    let low := lowest first.score rest
    let range := highest first.score rest - low
    scores.map fun s =>
      { s with score :=
          if range = 0 then minScore
          else (s.score - low) * (maxScore - minScore) / range + minScore }

/-- Brings the scores onto one scale, and logs them if there are any. -/
def normalize (pod : Pod) (scores : List NodeScore) (desk : Desk) :
    (List NodeScore × Status) × Desk :=
  let scaled := rescale scores
  ((scaled, .success), if scores.isEmpty then desk else desk.note (.normalized pod scaled))

/-- The phases together, over one view of the catalog. -/
def plugin (view : View) : Plugin Desk where
  preFilter pod _ cycle desk := preFilter view pod cycle desk
  filter := filter
  preScore pod _ cycle desk := preScore view pod cycle desk
  score := score
  normalize := some fun pod scores _ desk => normalize pod scores desk
  log line desk := desk.note line

end Steering

end Placement
