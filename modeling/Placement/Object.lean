import Placement.Labels

/-!
# Pods, policies and nodes

The objects a placement decision reads.  A pod is known by its identity and its
labels only; a policy adds how it selects pods and nodes, and how many of the
selected pods it wants on the selected nodes.

## Main definitions

* `ObjectMeta`, `Pod`, `Node` — identity and labels.
* `TargetSize`, `Action`, `Mode` — how much a policy asks for, and how strictly.
* `Policy` — a placement policy.
-/

namespace Placement

/-- The identity and labels of a stored object.  The namespace is `ns`. -/
structure ObjectMeta where
  name : String
  ns : String := ""
  /-- The identifier that a later object of the same name does not share. -/
  uid : String := ""
  labels : Labels := ∅
  deriving DecidableEq

/-- A pod, as far as placement is concerned. -/
structure Pod extends ObjectMeta
  deriving DecidableEq

/-- A candidate node: its name and the labels that node selectors look at. -/
structure Node where
  name : String
  labels : Labels := ∅
  deriving DecidableEq

/-- How many pods a policy asks for: a plain count, or a text that should read
as a percentage of the qualifying pods. -/
inductive TargetSize where
  | count (n : Int32)
  /-- A text such as `50%`; it is only read when the target is computed. -/
  | text (s : String)
  deriving DecidableEq

/-- Whether the target counts pods onto the selected nodes or away from them. -/
inductive Action where
  /-- The target number of pods belongs on the selected nodes. -/
  | must
  /-- The target number of pods belongs elsewhere. -/
  | mustNot
  deriving DecidableEq

/-- How far a policy may go to get its way. -/
inductive Mode where
  /-- The policy only ranks nodes. -/
  | bestEffort
  /-- The policy rules nodes out. -/
  | strict
  deriving DecidableEq

/-- A placement policy. -/
structure Policy extends ObjectMeta where
  /-- Which policy wins for a pod that several select: the heaviest. -/
  weight : Int32 := 0
  mode : Mode := .bestEffort
  podSelector : Labels := ∅
  nodeSelector : Labels := ∅
  /-- Whether the target counts pods on the selected nodes or off them. -/
  action : Action := .must
  /-- How many of the governed pods the action is for. -/
  target : TargetSize := .count 0
  deriving DecidableEq

end Placement
