import Placement.Catalog
import Placement.Registry
import Placement.Selection

/-!
# Membership of pods in policies

How a pod comes under a policy and leaves it again.  The policies are read from a
view of the catalog, which may be out of reach; the rosters are kept in the
registry.

## Main definitions

* `View` — the catalog as decisions read it.
* `View.policyFor` — the policy that governs a pod.
* `rosterOf` — the roster of a policy, as it would be under the policy's present body.
* `join`, `leave` — putting a pod on a roster, and taking it off.
-/

namespace Placement

/-- The catalog as decisions read it: while there is an outage, every reading
fails with its message. -/
structure View where
  catalog : Catalog := ∅
  /-- Why nothing can be read, if nothing can. -/
  outage : Option String := none

namespace View

/-- The answer of a reading, unless there is an outage. -/
def read {α : Type} (view : View) (answer : Catalog → α) : Except PlacementError α :=
  match view.outage with
  | some message => .error (.unreadable message)
  | none => .ok (answer view.catalog)

/-- The policy that governs a pod: one of the pod's namespace. -/
def policyFor (view : View) (pod : Pod) : Except PlacementError (Option Policy) :=
  (view.read (·.policiesIn pod.ns)).map fun policies => selectPolicy policies pod.labels

/-- The present version of a policy. -/
def policy? (view : View) (ns name : String) : Except PlacementError (Option Policy) :=
  view.read (·.policy? ns name)

/-- The pods of all namespaces whose labels satisfy a selector. -/
def podsMatching (view : View) (selector : Labels) : Except PlacementError (List Pod) :=
  view.read (·.podsMatching selector)

end View

namespace Membership

/-- The roster of a policy with the policy's present action and target.  An entry
is made where there is none, even when the target then turns out to be malformed;
the stored roster keeps the action and target it had. -/
def rosterOf (registry : Registry) (policy : Policy) : Except PlacementError Roster × Registry :=
  let (roster, registry) := registry.obtain policy.ns policy.name policy.action policy.target
  (roster.respecify policy.action policy.target, registry)

/-- Puts a pod on the stored roster that `roster` describes, whose action and
target it takes on first.  Gives the stored result. -/
def join (registry : Registry) (pod : Pod) (roster : Roster) :
    Except PlacementError (Roster × Registry) :=
  match pod.key with
  | .error e => .error e
  | .ok key =>
    let fresh := Roster.new roster.ns roster.name roster.action roster.target
    let changed := registry.modify roster.ns roster.name (some fresh) fun stored =>
      (stored.respecify roster.action roster.target).bind (·.enlist key)
    changed.map fun (stored, registry) => (stored.getD roster, registry)

/-- The name under which a namespace holds a roster with that pod: of several the
first in the order. -/
def rosterWith? (order : Registry.Order) (registry : Registry) (ns key : String) :
    Option String :=
  ((order.entries registry ns).find? fun entry => entry.2.qualifies key).map (·.1)

/-- Takes a pod off the roster in its namespace that holds it, if one does.  Gives
the name and the state of that roster. -/
def leave (order : Registry.Order) (registry : Registry) (pod : Pod) :
    Except PlacementError (Option (String × Roster) × Registry) :=
  match pod.key with
  | .error e => .error e
  | .ok key =>
    match rosterWith? order registry pod.ns key with
    | none => .ok (none, registry)
    | some name =>
      (registry.modify pod.ns name none (·.discharge key)).map fun (left, registry) =>
        (left.map fun roster => (name, roster), registry)

end Membership

end Placement
