import Std.Data.ExtTreeSet
import Placement.Target

/-!
# The roster of a policy

A roster keeps which pods a policy governs and which of those it has claimed for
the nodes it selects.  A pod that joins is claimed as long as the target, computed
with that pod counted in, is not met yet; what it was told then it keeps until it
leaves.

## Main definitions

* `Roster` — the bookkeeping of one policy.
* `Roster.new` — an empty roster.
* `Roster.InPlace.respecify`, `enlist`, `discharge` — the operations on it, step by step.
* `Roster.respecify`, `enlist`, `discharge` — what they make of a copy.
* `Pod.key` — the key a pod is tracked under.
-/

namespace Placement

/-- The key a pod is tracked under: its identifier, which must not be empty. -/
def Pod.key (pod : Pod) : Except PlacementError String :=
  if pod.uid.isEmpty then .error (.emptyUid pod.ns pod.name) else .ok pod.uid

/-- The bookkeeping of one policy. -/
structure Roster where
  ns : String
  name : String
  action : Action
  target : TargetSize
  /-- The keys of the pods the policy governs. -/
  qualified : Std.ExtTreeSet String
  /-- The keys of those among them that it claims for its nodes. -/
  managed : Std.ExtTreeSet String
  /-- Whether it claims as many as its target asks for. -/
  targetMet : Bool
  deriving DecidableEq

namespace Roster

/-- An empty roster.  Where the target is no percentage it counts as not met;
the first pod to join will report it. -/
def new (ns name : String) (action : Action) (target : TargetSize) : Roster where
  ns := ns
  name := name
  action := action
  target := target
  qualified := ∅
  managed := ∅
  targetMet :=
    match target.required 0 action with
    | .ok wanted => wanted ≤ 0
    | .error _ => false

/-- Whether the roster holds no pod. -/
def isEmpty (r : Roster) : Bool :=
  r.qualified.isEmpty

/-- Whether a pod is claimed for the selected nodes. -/
def manages (r : Roster) (key : String) : Bool :=
  key ∈ r.managed

/-- Whether a pod is governed by the policy. -/
def qualifies (r : Roster) (key : String) : Bool :=
  key ∈ r.qualified

/-- The number of claimed pods that the target asks for when `qualifying` pods
qualify. -/
def required (r : Roster) (qualifying : Nat) : Except PlacementError Int :=
  r.target.required qualifying r.action

/-- Whether the claimed pods number at least `wanted`. -/
def meets (r : Roster) (wanted : Int) : Bool :=
  wanted ≤ r.managed.size

/-! ## Operations in place

Each gives whether it failed, and the roster it leaves, which it may have changed before
it failed. -/

namespace InPlace

/-- Computes anew whether the target is met. -/
def reassess (r : Roster) : Except PlacementError Unit × Roster :=
  match r.required r.qualified.size with
  | .error e => (.error e, r)
  | .ok wanted => (.ok (), { r with targetMet := r.meets wanted })

/-- Gives the roster another action and target, keeping its pods. -/
def respecify (r : Roster) (action : Action) (target : TargetSize) :
    Except PlacementError Unit × Roster :=
  match target.required r.qualified.size action with
  | .error e => (.error e, r)
  | .ok wanted =>
    (.ok (), { r with action := action, target := target, targetMet := r.meets wanted })

/-- Adds a pod, unless it is there already.  It is claimed when the target is not
met once the pod has been counted as qualifying. -/
def enlist (r : Roster) (key : String) : Except PlacementError Unit × Roster :=
  if r.qualifies key then (.ok (), r)
  else
    match r.required (r.qualified.size + 1) with
    | .error e => (.error e, r)
    | .ok wanted =>
      let joined := { r with qualified := r.qualified.insert key, targetMet := r.meets wanted }
      if joined.targetMet then (.ok (), joined)
      else reassess { joined with managed := joined.managed.insert key }

/-- Takes a pod off the roster, if it is on it.  No other pod changes sides. -/
def discharge (r : Roster) (key : String) : Except PlacementError Unit × Roster :=
  if r.qualifies key then
    match r.required (r.qualified.size - 1) with
    | .error e => (.error e, r)
    | .ok _ =>
      reassess { r with qualified := r.qualified.erase key, managed := r.managed.erase key }
  else (.ok (), r)

end InPlace

/-! ## Operations on a copy -/

/-- The roster that an operation in place leaves, if it does not fail. -/
def ifDone : Except PlacementError Unit × Roster → Except PlacementError Roster
  | (.ok (), r) => .ok r
  | (.error e, _) => .error e

/-- The roster under another action and target. -/
def respecify (r : Roster) (action : Action) (target : TargetSize) : Except PlacementError Roster :=
  ifDone (InPlace.respecify r action target)

/-- The roster with a pod added by its key. -/
def enlist (r : Roster) (key : String) : Except PlacementError Roster :=
  ifDone (InPlace.enlist r key)

/-- The roster without a pod. -/
def discharge (r : Roster) (key : String) : Except PlacementError Roster :=
  ifDone (InPlace.discharge r key)

/-- Adds a pod by its key. -/
def enlistPod (r : Roster) (pod : Pod) : Except PlacementError Roster :=
  pod.key.bind r.enlist

/-- Takes a pod off by its key. -/
def dischargePod (r : Roster) (pod : Pod) : Except PlacementError Roster :=
  pod.key.bind r.discharge

/-- Adds pods one after the other; the first that cannot be added ends it. -/
def enlistAll (r : Roster) : List String → Except PlacementError Roster
  | [] => .ok r
  | key :: keys =>
    match r.enlist key with
    | .ok joined => joined.enlistAll keys
    | .error e => .error e

/-- Takes over everything that `source` says, in place of what was there. -/
def takeOver (r source : Roster) : Roster :=
  { r with
    ns := source.ns
    name := source.name
    action := source.action
    target := source.target
    qualified := source.qualified
    managed := source.managed
    targetMet := source.targetMet }

@[simp] theorem takeOver_eq (r source : Roster) : r.takeOver source = source := rfl

end Roster

end Placement
