import Placement.Proofs.Membership
import Placement.Proofs.Namespaced

/-!
# The registry is a table

The registry of rosters keeps a collection for each namespace, and what is stored takes the place
of a roster that is there field by field.  Whatever is done to it, it answers like one table by
namespace and name, and holds what that table does.

## Main definitions

* `Registry.Operation` — what can be done to a registry.
* `Registry.Operation.carry` — doing it.
* `Registry.Operation.onTable` — the same for a table.

What one operation does is said by `Registry.Operation.carry_readsAs`.  The main statement is
`Registry.rosters_as_table`.
-/

namespace Placement.Registry

/-- The operations on a registry. -/
inductive Operation where
  /-- Ask for the roster of a policy, which is entered if there is none. -/
  | obtain (ns name : String) (action : Action) (target : TargetSize)
  | store (ns name : String) (incoming : Roster)
  | remove (ns name : String)
  /-- Change an entry, or the seed where there is none. -/
  | modify (ns name : String) (seed : Option Roster)
      (change : Roster → Except PlacementError Roster)

namespace Operation

variable {registry : Registry} {table : Table Roster} {ns name : String}

/-- The namespace and name that an operation is about. -/
def place : Operation → String × String
  | obtain ns name _ _ => (ns, name)
  | store ns name _ => (ns, name)
  | remove ns name => (ns, name)
  | modify ns name _ _ => (ns, name)

/-- Carries out an operation.  Gives its answer, which may be that there is no roster, and the
registry afterwards. -/
def carry (registry : Registry) : Operation → Except PlacementError (Option Roster) × Registry
  | obtain ns name action target =>
    let (roster, after) := registry.obtain ns name action target
    (.ok (some roster), after)
  | store ns name incoming =>
    let (roster, after) := registry.store ns name incoming
    (.ok (some roster), after)
  | remove ns name =>
    let (held, after) := registry.remove ns name
    (.ok held, after)
  | modify ns name seed change =>
    match registry.modify ns name seed change with
    | .ok (result, after) => (.ok result, after)
    | .error e => (.error e, registry)

/-- What an operation does to a table.  One that asks for a roster finds the one that is there,
or enters an empty one.  One that stores a roster puts it there.  One that drops an entry gives
what was there.  A change is made to what is there or else to the seed; without either nothing
happens, a failure changes nothing, and a result without pods is given but not kept. -/
def onTable (table : Table Roster) :
    Operation → Except PlacementError (Option Roster) × Table Roster
  | obtain ns name action target =>
    match table.lookup (ns, name) with
    | some roster => (.ok (some roster), table)
    | none =>
      let roster := Roster.new ns name action target
      (.ok (some roster), table.insert (ns, name) roster)
  | store ns name incoming => (.ok (some incoming), table.insert (ns, name) incoming)
  | remove ns name => (.ok (table.lookup (ns, name)), table.erase (ns, name))
  | modify ns name seed change =>
    match (table.lookup (ns, name)).or seed with
    | none => (.ok none, table)
    | some roster =>
      match change roster with
      | .error e => (.error e, table)
      | .ok changed =>
        (.ok (some changed),
          if changed.qualified = ∅ then table.erase (ns, name)
          else table.insert (ns, name) changed)

/-- **An operation answers like the table, and leaves what the table then holds.** -/
theorem carry_readsAs (h : Namespaced.ReadsAs registry table) (operation : Operation) :
    (operation.carry registry).1 = (operation.onTable table).1 ∧
      Namespaced.ReadsAs (operation.carry registry).2 (operation.onTable table).2 := by
  cases operation with
  | obtain ns name action target =>
    simp only [carry, onTable, Registry.obtain, h ns name]
    cases table.lookup (ns, name) with
    | some roster => exact ⟨rfl, h⟩
    | none => exact ⟨rfl, h.insert ns name _⟩
  | store ns name incoming =>
    simp only [carry, onTable, store_eq]
    exact ⟨trivial, h.insert ns name incoming⟩
  | remove ns name =>
    simp only [carry, onTable, Registry.remove, h ns name]
    exact ⟨trivial, h.erase ns name⟩
  | modify ns name seed change =>
    cases base : (registry.get? ns name).or seed with
    | none =>
      have base' : (table.lookup (ns, name)).or seed = none := h ns name ▸ base
      simp only [carry, onTable, Registry.modify, base, base']
      exact ⟨trivial, h⟩
    | some roster =>
      have base' : (table.lookup (ns, name)).or seed = some roster := h ns name ▸ base
      simp only [carry, onTable, modify_eq base, base']
      cases change roster with
      | error e => exact ⟨rfl, h⟩
      | ok changed =>
        refine ⟨rfl, ?_⟩
        by_cases empty : changed.qualified = ∅
        · simp only [Except.map, Roster.isEmpty_iff.mpr empty, if_pos empty, if_true]
          exact h.erase ns name
        · simp only [Except.map, Roster.isEmpty_iff, if_neg empty]
          exact h.insert ns name changed

/-- No operation touches what is under another namespace or name. -/
theorem get?_carry_of_ne (operation : Operation) (other : operation.place ≠ (ns, name)) :
    (operation.carry registry).2.get? ns name = registry.get? ns name := by
  have apart : ¬(operation.place.1 = ns ∧ operation.place.2 = name) := fun same =>
    other (Prod.ext same.1 same.2)
  cases operation with
  | obtain ns' name' action target => exact (get?_obtain ..).trans (if_neg apart)
  | store ns' name' incoming =>
    simp only [carry, store_eq]
    exact (Namespaced.get?_insert ..).trans (if_neg apart)
  | remove ns' name' => exact (get?_remove ..).trans (if_neg apart)
  | modify ns' name' seed change =>
    cases base : (registry.get? ns' name').or seed with
    | none => simp only [carry, Registry.modify, base]
    | some roster =>
      simp only [carry, modify_eq base]
      cases change roster with
      | error e => rfl
      | ok changed =>
        simp only [Except.map]
        split
        · exact (Namespaced.get?_erase ..).trans (if_neg apart)
        · exact (Namespaced.get?_insert ..).trans (if_neg apart)

end Operation

/-- **The registry is a table.**  Operations on an empty registry, whatever they are, answer like
the same operations on an empty table, and the registry then holds what the table does.  Its
namespaces are those that occur in the keys of the table, each listed once.  No further operation
touches what is under another namespace or name than its own. -/
theorem rosters_as_table (operations : List Operation) :
    let run := carryAll Operation.carry (∅ : Registry) operations
    let table := carryAll Operation.onTable (∅ : Table Roster) operations
    run.1 = table.1 ∧
      (∀ ns name, run.2.get? ns name = table.2.lookup (ns, name)) ∧
      (run.2.namespaces.Nodup ∧
        ∀ ns, ns ∈ run.2.namespaces ↔ ∃ name, (ns, name) ∈ table.2) ∧
      ∀ (operation : Operation) (ns name : String), operation.place ≠ (ns, name) →
        (operation.carry run.2).2.get? ns name = run.2.get? ns name := by
  intro run table
  obtain ⟨answers, reads⟩ : run.1 = table.1 ∧ Namespaced.ReadsAs run.2 table.2 :=
    carryAll_related (fun _ _ operation h => operation.carry_readsAs h)
      Namespaced.readsAs_empty operations
  exact ⟨answers, reads, ⟨Namespaced.nodup_namespaces run.2, fun _ => reads.mem_namespaces⟩,
    fun operation _ _ other => operation.get?_carry_of_ne other⟩

end Placement.Registry
