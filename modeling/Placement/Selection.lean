import Placement.Object

/-!
# Which policy governs a pod

Of the policies whose pod selector the pod's labels satisfy, the heaviest governs
it.  Equal weights are settled by the name, the least first, and equal names by the
order in which the policies were given.

## Main definitions

* `Policy.selects` — the pod selector is satisfied.
* `Policy.outranks` — the order of policies.
* `selectPolicy` — the policy that governs.
-/

namespace Placement

/-- Whether labels satisfy the pod selector of a policy. -/
def Policy.selects (policy : Policy) (labels : Labels) : Bool :=
  labels.satisfies policy.podSelector

/-- Whether a policy goes before another: it is heavier, or as heavy and of a
lesser name. -/
def Policy.outranks (a b : Policy) : Bool :=
  b.weight < a.weight || (a.weight == b.weight && a.name < b.name)

/-- The first of the policies that none outranks. -/
def foremost? : List Policy → Option Policy
  | [] => none
  | policy :: rest =>
    match foremost? rest with
    | none => some policy
    | some other => if other.outranks policy then some other else some policy

/-- The policy that governs a pod with these labels, if one does. -/
def selectPolicy (policies : List Policy) (labels : Labels) : Option Policy :=
  foremost? (policies.filter fun policy => policy.selects labels)

end Placement
