import Placement.Namespaced
import Placement.Object

/-!
# The catalog of known objects

The policies and pods known to the cluster.  Policies are filed by namespace and
name.  Pods are filed under one text made of both, with a slash between.

## Main definitions

* `Catalog` — what is known.
* `addPolicy`, `upsertPolicy`, `updatePolicy`, `deletePolicy` — the policy side.
* `putPod`, `dropPod` — the pod side.
* `Catalog.Command`, `Catalog.run` — all operations as one type, and their answers.
-/

namespace Placement

/-- The text a pod is filed under. -/
def Pod.fileKey (ns name : String) : String :=
  ns ++ "/" ++ name

/-- The policies and pods that are known. -/
structure Catalog where
  policies : Namespaced Policy := ∅
  /-- The pods, by the text they are filed under. -/
  pods : Std.ExtTreeMap String Pod := ∅
  policies_named : ∀ (ns name : String) (policy : Policy),
    policies.get? ns name = some policy → policy.ns = ns ∧ policy.name = name := by simp
  deriving DecidableEq

namespace Catalog

instance : EmptyCollection Catalog := ⟨{}⟩

instance : Inhabited Catalog := ⟨∅⟩

/-! ## Policies -/

/-- The policy of that namespace and name. -/
def policy? (catalog : Catalog) (ns name : String) : Option Policy :=
  catalog.policies.get? ns name

/-- The policies of a namespace, by name. -/
def policiesIn (catalog : Catalog) (ns : String) : List Policy :=
  catalog.policies.values ns

/-- What is listed in a namespace is found there under its own name. -/
theorem mem_policiesIn (catalog : Catalog) (ns : String) (policy : Policy) :
    policy ∈ catalog.policiesIn ns ↔
      policy.ns = ns ∧ catalog.policy? policy.ns policy.name = some policy := by
  rw [policiesIn, Namespaced.mem_values]
  constructor
  · rintro ⟨name, found⟩
    obtain ⟨rfl, rfl⟩ := catalog.policies_named ns name policy found
    exact ⟨rfl, found⟩
  · rintro ⟨rfl, found⟩
    exact ⟨policy.name, found⟩

/-- Files a policy under its own namespace and name, and gives the one it
replaces. -/
def upsertPolicy (catalog : Catalog) (policy : Policy) : Option Policy × Catalog :=
  (catalog.policy? policy.ns policy.name,
    { catalog with
      policies := catalog.policies.insert policy.ns policy.name policy
      policies_named := by
        intro ns name found h
        rw [Namespaced.get?_insert] at h
        split at h
        next same => exact Option.some.inj h ▸ same
        next => exact catalog.policies_named ns name found h })

/-- A filed policy is found under its own namespace and name. -/
theorem policy?_upsertPolicy (catalog : Catalog) (policy : Policy) (ns name : String) :
    (catalog.upsertPolicy policy).2.policy? ns name =
      if policy.ns = ns ∧ policy.name = name then some policy else catalog.policy? ns name :=
  Namespaced.get?_insert ..

/-- Files a policy unless one of its namespace and name is there already. -/
def addPolicy (catalog : Catalog) (policy : Policy) : Bool × Catalog :=
  match catalog.policy? policy.ns policy.name with
  | some _ => (false, catalog)
  | none => (true, (catalog.upsertPolicy policy).2)

/-- A policy that is added gives way to the one that was there. -/
theorem policy?_addPolicy (catalog : Catalog) (policy : Policy) (ns name : String) :
    (catalog.addPolicy policy).2.policy? ns name =
      if policy.ns = ns ∧ policy.name = name then (catalog.policy? ns name).or (some policy)
      else catalog.policy? ns name := by
  unfold addPolicy
  split
  next present found =>
    by_cases h : policy.ns = ns ∧ policy.name = name
    · obtain ⟨rfl, rfl⟩ := h
      simp [found]
    · simp [h]
  next missing =>
    rw [policy?_upsertPolicy]
    by_cases h : policy.ns = ns ∧ policy.name = name
    · obtain ⟨rfl, rfl⟩ := h
      simp [missing]
    · simp [h]

/-- Drops the policy of that namespace and name, and gives it. -/
def deletePolicy (catalog : Catalog) (ns name : String) : Option Policy × Catalog :=
  (catalog.policy? ns name,
    { catalog with
      policies := catalog.policies.erase ns name
      policies_named := by
        intro ns' name' found h
        rw [Namespaced.get?_erase] at h
        split at h
        next => cases h
        next => exact catalog.policies_named ns' name' found h })

/-- A dropped policy is gone, and no other policy changes. -/
theorem policy?_deletePolicy (catalog : Catalog) (ns name ns' name' : String) :
    (catalog.deletePolicy ns name).2.policy? ns' name' =
      if ns = ns' ∧ name = name' then none else catalog.policy? ns' name' :=
  Namespaced.get?_erase ..

/-- Replaces the policy known by an old namespace and name, which goes when the
policy now has another one. -/
def updatePolicy (catalog : Catalog) (oldNs oldName : String) (policy : Policy) : Catalog :=
  if oldNs = policy.ns ∧ oldName = policy.name then (catalog.upsertPolicy policy).2
  else ((catalog.deletePolicy oldNs oldName).2.upsertPolicy policy).2

/-! ## Pods -/

/-- The pod filed under that namespace and name. -/
def pod? (catalog : Catalog) (ns name : String) : Option Pod :=
  catalog.pods[Pod.fileKey ns name]?

/-- Files a pod, and gives the one it replaces. -/
def putPod (catalog : Catalog) (pod : Pod) : Option Pod × Catalog :=
  (catalog.pod? pod.ns pod.name,
    { catalog with pods := catalog.pods.insert (Pod.fileKey pod.ns pod.name) pod })

/-- A filed pod is found under every namespace and name that share its text. -/
theorem pod?_putPod (catalog : Catalog) (pod : Pod) (ns name : String) :
    (catalog.putPod pod).2.pod? ns name =
      if Pod.fileKey pod.ns pod.name = Pod.fileKey ns name then some pod
      else catalog.pod? ns name := by
  simp [pod?, putPod, Std.ExtTreeMap.getElem?_insert, Std.LawfulEqCmp.compare_eq_iff_eq]

/-- Drops the pod filed under that namespace and name, and gives it. -/
def dropPod (catalog : Catalog) (ns name : String) : Option Pod × Catalog :=
  (catalog.pod? ns name, { catalog with pods := catalog.pods.erase (Pod.fileKey ns name) })

/-- A dropped pod is gone, and so is what shares its text. -/
theorem pod?_dropPod (catalog : Catalog) (ns name ns' name' : String) :
    (catalog.dropPod ns name).2.pod? ns' name' =
      if Pod.fileKey ns name = Pod.fileKey ns' name' then none else catalog.pod? ns' name' := by
  simp [pod?, dropPod, Std.ExtTreeMap.getElem?_erase, Std.LawfulEqCmp.compare_eq_iff_eq]

/-- The pods of all namespaces whose labels satisfy a selector. -/
def podsMatching (catalog : Catalog) (selector : Labels) : List Pod :=
  (catalog.pods.toList.map (·.2)).filter fun pod => pod.labels.satisfies selector

/-! ## Commands -/

/-- The operations on a catalog. -/
inductive Command where
  /-- File a policy unless it is there. -/
  | addPolicy (policy : Policy)
  /-- File a policy, replacing what was there. -/
  | upsertPolicy (policy : Policy)
  /-- Replace the policy of an old namespace and name. -/
  | updatePolicy (oldNs oldName : String) (policy : Policy)
  | deletePolicy (ns name : String)
  | policy (ns name : String)
  | policiesIn (ns : String)
  | putPod (pod : Pod)
  | dropPod (ns name : String)
  | pod (ns name : String)
  | podsMatching (selector : Labels)

/-- What an operation on a catalog answers. -/
inductive Answer where
  | done
  | filed (yes : Bool)
  /-- A policy, if there is or was one. -/
  | policy (found : Option Policy)
  | policies (found : List Policy)
  /-- A pod, if there is or was one. -/
  | pod (found : Option Pod)
  | pods (found : List Pod)

/-- Carries out an operation. -/
def run (catalog : Catalog) : Command → Answer × Catalog
  | .addPolicy policy => (catalog.addPolicy policy).map .filed id
  | .upsertPolicy policy => (catalog.upsertPolicy policy).map .policy id
  | .updatePolicy ns name policy => (.done, catalog.updatePolicy ns name policy)
  | .deletePolicy ns name => (catalog.deletePolicy ns name).map .policy id
  | .policy ns name => (.policy (catalog.policy? ns name), catalog)
  | .policiesIn ns => (.policies (catalog.policiesIn ns), catalog)
  | .putPod pod => (catalog.putPod pod).map .pod id
  | .dropPod ns name => (catalog.dropPod ns name).map .pod id
  | .pod ns name => (.pod (catalog.pod? ns name), catalog)
  | .podsMatching selector => (.pods (catalog.podsMatching selector), catalog)

end Catalog

end Placement
