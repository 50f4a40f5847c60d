import Placement.Namespaced
import Placement.Roster

/-!
# The registry of rosters

One roster for each policy that has one, by the policy's namespace and name.  An
entry appears when a policy's roster is first asked for and goes when its last
pod leaves.

## Main definitions

* `Registry` — the rosters.
* `Registry.obtain` — the roster of a policy, entered if it has none.
* `Registry.store`, `Registry.remove` — writing and dropping an entry.
* `Registry.modify` — a change that happens wholly or not at all.
* `Registry.Order` — an order in which the rosters of a namespace are gone through.

What each of the first three operations leaves in the registry is said by a lemma beside it.
-/

namespace Placement

/-- The rosters of all policies. -/
abbrev Registry := Namespaced Roster

namespace Registry

/-- The roster under a namespace and name.  Where there is none an empty one is
entered, with the given action and target. -/
def obtain (registry : Registry) (ns name : String) (action : Action) (target : TargetSize) :
    Roster × Registry :=
  match registry.get? ns name with
  | some roster => (roster, registry)
  | none =>
    let roster := Roster.new ns name action target
    (roster, registry.insert ns name roster)

/-- Asking for a roster leaves it entered, and changes no other entry. -/
theorem get?_obtain (registry : Registry) (ns name ns' name' : String) (action : Action)
    (target : TargetSize) :
    (registry.obtain ns name action target).2.get? ns' name' =
      if ns = ns' ∧ name = name' then some (registry.obtain ns name action target).1
      else registry.get? ns' name' := by
  unfold obtain
  split
  next roster present =>
    by_cases h : ns = ns' ∧ name = name'
    · obtain ⟨rfl, rfl⟩ := h
      simpa using present
    · simp [h]
  next => exact Namespaced.get?_insert ..

/-- Lets the entry under a namespace and name take over a roster, making the entry
if there is none, and gives what is stored then. -/
def store (registry : Registry) (ns name : String) (incoming : Roster) : Roster × Registry :=
  let stored :=
    match registry.get? ns name with
    | some present => present.takeOver incoming
    | none => incoming
  (stored, registry.insert ns name stored)

/-- What is stored is the incoming roster, whatever was there. -/
@[simp] theorem store_eq (registry : Registry) (ns name : String) (incoming : Roster) :
    registry.store ns name incoming = (incoming, registry.insert ns name incoming) := by
  unfold store
  split <;> simp

/-- Drops the entry under a namespace and name, and gives what it held. -/
def remove (registry : Registry) (ns name : String) : Option Roster × Registry :=
  (registry.get? ns name, registry.erase ns name)

/-- A dropped entry is gone, and no other entry changes. -/
theorem get?_remove (registry : Registry) (ns name ns' name' : String) :
    (registry.remove ns name).2.get? ns' name' =
      if ns = ns' ∧ name = name' then none else registry.get? ns' name' :=
  Namespaced.get?_erase ..

/-- Applies a change to the entry under a namespace and name, or to `seed` where
there is none.  A result without pods is not kept.  A change that fails leaves the
registry as it was, and with neither an entry nor a seed nothing happens. -/
def modify (registry : Registry) (ns name : String) (seed : Option Roster)
    (change : Roster → Except PlacementError Roster) :
    Except PlacementError (Option Roster × Registry) :=
  match (registry.get? ns name).or seed with
  | none => .ok (none, registry)
  | some roster =>
    match change roster with
    | .error e => .error e
    | .ok changed =>
      if changed.isEmpty then .ok (some changed, (registry.remove ns name).2)
      else
        let (stored, registry) := registry.store ns name changed
        .ok (some stored, registry)

/-- An order in which the rosters of each namespace are gone through.  Nothing is known of it: it
may be any, and another one for each registry. -/
structure Order where
  entries : Registry → String → List (String × Roster)
  entries_perm : ∀ registry ns, (entries registry ns).Perm (registry.group ns).toList

namespace Order

/-- The order of the names. -/
def byName : Order where
  entries registry ns := (registry.group ns).toList
  entries_perm _ _ := .refl _

/-- Whatever the order, what is gone through are the entries of the namespace. -/
theorem mem_entries (order : Order) {registry : Registry} {ns : String}
    {entry : String × Roster} :
    entry ∈ order.entries registry ns ↔ registry.get? ns entry.1 = some entry.2 := by
  rw [(order.entries_perm registry ns).mem_iff]
  exact Std.ExtTreeMap.mem_toList_iff_getElem?_eq_some

end Order

end Registry

end Placement
