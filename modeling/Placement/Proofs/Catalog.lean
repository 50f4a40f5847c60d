import Placement.Catalog
import Placement.Proofs.ByteOrder
import Placement.Proofs.Namespaced

/-!
# The policies are a table

The catalog files policies by namespace and then by name.  Whatever is done to them, it answers
like one table by namespace and name, and holds what that table does.  A policy stands under the
namespace and name that it carries, so that those of a namespace are listed by their own names.

## Main definitions

* `Catalog.PolicyChange` — what can be done to the policies.
* `Catalog.PolicyChange.carry` — doing it.
* `Catalog.PolicyChange.onTable` — the same for a table.

What one change does is said by `Catalog.PolicyChange.carry_readsAs`, how policies are listed by
`Catalog.policiesIn_ascending`.  The main statement is `Catalog.policies_as_table`.
-/

namespace Placement.Catalog

/-- The changes of the policies of a catalog. -/
inductive PolicyChange where
  | add (policy : Policy)
  | upsert (policy : Policy)
  | update (oldNs oldName : String) (policy : Policy)
  | delete (ns name : String)

namespace PolicyChange

/-- The operation on a catalog that makes a change. -/
def command : PolicyChange → Command
  | add policy => .addPolicy policy
  | upsert policy => .upsertPolicy policy
  | update oldNs oldName policy => .updatePolicy oldNs oldName policy
  | delete ns name => .deletePolicy ns name

/-- Makes a change.  Gives its answer, and the catalog afterwards. -/
def carry (catalog : Catalog) (change : PolicyChange) : Answer × Catalog :=
  catalog.run change.command

/-- What a change does to a table.  A policy is added unless one is there, or takes the place of
the one that is there, which is given.  One that is known by another namespace or name is first
taken from there.  One that is dropped is given. -/
def onTable (table : Table Policy) : PolicyChange → Answer × Table Policy
  | add policy =>
    if (policy.ns, policy.name) ∈ table then (.filed false, table)
    else (.filed true, table.insert (policy.ns, policy.name) policy)
  | upsert policy =>
    (.policy (table.lookup (policy.ns, policy.name)),
      table.insert (policy.ns, policy.name) policy)
  | update oldNs oldName policy =>
    let others :=
      if (oldNs, oldName) = (policy.ns, policy.name) then table else table.erase (oldNs, oldName)
    (.done, others.insert (policy.ns, policy.name) policy)
  | delete ns name => (.policy (table.lookup (ns, name)), table.erase (ns, name))

variable {catalog : Catalog} {table : Table Policy}

/-- **A change answers like the table, and leaves what the table then holds.** -/
theorem carry_readsAs (h : catalog.policies.ReadsAs table) (change : PolicyChange) :
    (change.carry catalog).1 = (change.onTable table).1 ∧
      (change.carry catalog).2.policies.ReadsAs (change.onTable table).2 := by
  cases change with
  | add policy =>
    simp only [carry, command, run, onTable, addPolicy, policy?, h policy.ns policy.name,
      ← Finmap.lookup_isSome]
    cases table.lookup (policy.ns, policy.name) with
    | some present => exact ⟨rfl, h⟩
    | none => exact ⟨rfl, h.insert policy.ns policy.name policy⟩
  | upsert policy =>
    simp only [carry, command, run, onTable, upsertPolicy, policy?, h policy.ns policy.name]
    exact ⟨rfl, h.insert policy.ns policy.name policy⟩
  | update oldNs oldName policy =>
    simp only [carry, command, run, onTable, updatePolicy, Prod.mk.injEq]
    refine ⟨trivial, ?_⟩
    split
    · exact h.insert policy.ns policy.name policy
    · exact (h.erase oldNs oldName).insert policy.ns policy.name policy
  | delete ns name =>
    simp only [carry, command, run, onTable, deletePolicy, policy?, h ns name]
    exact ⟨rfl, h.erase ns name⟩

end PolicyChange

/-- **The policies of a namespace are listed in the order of their own names.** -/
theorem policiesIn_ascending (catalog : Catalog) (ns : String) :
    (catalog.policiesIn ns).Pairwise fun policy next =>
      policy.name.toUTF8.toList < next.name.toUTF8.toList := by
  rw [policiesIn, Namespaced.values, List.pairwise_map]
  refine Std.ExtTreeMap.ordered_keys_toList.imp_of_mem fun {entry next} here there before => ?_
  have named {entry : String × Policy}
      (listed : entry ∈ (catalog.policies.group ns).toList) : entry.2.name = entry.1 :=
    (catalog.policies_named ns entry.1 entry.2
      (Std.ExtTreeMap.mem_toList_iff_getElem?_eq_some.mp listed)).2
  rw [named here, named there, ← Text.Utf8.lt_iff_bytes_lt]
  exact compare_lt_iff_lt.mp before

/-- **The policies are a table.**  Changes of an empty catalog, whatever they are, answer like the
same changes of an empty table, and the policies are then those of the table, each under the
namespace and name that it carries.  Those of a namespace are listed once each, in ascending order
of the bytes of their names, and the namespaces that are kept are those that have policies. -/
theorem policies_as_table (changes : List PolicyChange) :
    let run := carryAll PolicyChange.carry (∅ : Catalog) changes
    let table := carryAll PolicyChange.onTable (∅ : Table Policy) changes
    run.1 = table.1 ∧
      (∀ ns name, run.2.policy? ns name = table.2.lookup (ns, name)) ∧
      (∀ ns name policy, run.2.policy? ns name = some policy →
        policy.ns = ns ∧ policy.name = name) ∧
      (∀ ns, (∀ policy, policy ∈ run.2.policiesIn ns ↔
          ∃ name, table.2.lookup (ns, name) = some policy) ∧
        (run.2.policiesIn ns).Nodup ∧
        (run.2.policiesIn ns).Pairwise fun policy next =>
          policy.name.toUTF8.toList < next.name.toUTF8.toList) ∧
      run.2.policies.namespaces.Nodup ∧
        ∀ ns, ns ∈ run.2.policies.namespaces ↔ ∃ name, (ns, name) ∈ table.2 := by
  intro run table
  obtain ⟨answers, reads⟩ : run.1 = table.1 ∧ run.2.policies.ReadsAs table.2 :=
    carryAll_related
      (fun (catalog : Catalog) (table : Table Policy) change
        (h : catalog.policies.ReadsAs table) => change.carry_readsAs h)
      Namespaced.readsAs_empty changes
  refine ⟨answers, reads, run.2.policies_named, fun ns => ⟨fun policy => reads.mem_values, ?_,
    policiesIn_ascending run.2 ns⟩, Namespaced.nodup_namespaces run.2.policies,
    fun ns => reads.mem_namespaces⟩
  refine (policiesIn_ascending run.2 ns).imp fun before same => ?_
  rw [same] at before
  exact List.lt_irrefl _ before

end Placement.Catalog
