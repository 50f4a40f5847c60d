import Placement.Membership
import Placement.Text.Utf8
import Placement.Watch.Event
import Placement.Watch.Key

/-!
# Following the store

What is known follows the changes in the store one by one.  A change whose value does
not decode, or whose key tells no policy, is passed over.

## Main definitions

* `Follower` — the catalog and the rosters that follow the store.
* `Follower.policyEvent`, `Follower.podEvent` — following one change.
* `Follower.load` — taking in what a listing found.
-/

namespace Placement.Watch

/-- The catalog and the rosters that follow the store. -/
structure Follower where
  catalog : Catalog := ∅
  registry : Registry := ∅
  /-- The order in which the rosters of a namespace are gone through. -/
  order : Registry.Order := .byName

namespace Follower

/-- Follows a new value for the key of a policy.  The value before, if it decodes,
tells under which name the policy was known. -/
def policyPut (f : Follower) (policy : Policy) (before : Option Policy) : Follower :=
  { f with catalog :=
      match before with
      | some old => f.catalog.updatePolicy old.ns old.name policy
      | none => (f.catalog.upsertPolicy policy).2 }

/-- Follows the loss of the key of a policy.  Only the key tells which one it was. -/
def policyGone (f : Follower) (start : String) (key : ByteArray) : Follower :=
  match parsePolicyKey (Text.Utf8.toText key) start with
  | some (ns, name) => { f with catalog := (f.catalog.deletePolicy ns name).2 }
  | none => f

/-- Follows a change under the prefix of the policies. -/
def policyEvent (f : Follower) (start : String) (event : Event) : Follower :=
  match event.now with
  | none => f
  | some pair =>
    match event.change with
    | .put =>
      match pair.policy? with
      | none => f
      | some policy => f.policyPut policy (event.before.bind KeyValue.policy?)
    | .delete => f.policyGone start pair.key

/-- Follows the loss of a pod, which also leaves its roster. -/
def podGone (f : Follower) (pod : Pod) : Follower :=
  { f with
    catalog := (f.catalog.dropPod pod.ns pod.name).2
    registry :=
      match Membership.leave f.order f.registry pod with
      | .ok (_, registry) => registry
      | .error _ => f.registry }

/-- Follows a change under the prefix of the pods. -/
def podEvent (f : Follower) (event : Event) : Follower :=
  match event.change with
  | .put =>
    match event.now.bind KeyValue.pod? with
    | none => f
    | some pod => { f with catalog := (f.catalog.putPod pod).2 }
  | .delete =>
    match event.before.bind KeyValue.pod? with
    | none => f
    | some pod => f.podGone pod

/-- Takes in what listings of policies and of pods found.  A policy that is known
already stays as it is. -/
def load (f : Follower) (policies pods : List KeyValue) : Follower :=
  let withPolicies := (policies.filterMap KeyValue.policy?).foldl
    (fun catalog policy => (catalog.addPolicy policy).2) f.catalog
  let withPods := (pods.filterMap KeyValue.pod?).foldl
    (fun catalog pod => (catalog.putPod pod).2) withPolicies
  { f with catalog := withPods }

end Follower

end Placement.Watch
