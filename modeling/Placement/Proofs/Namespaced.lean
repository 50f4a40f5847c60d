import Mathlib.Data.Finmap
import Placement.Namespaced

/-!
# Collections by namespace as tables

A collection keeps the things of each namespace apart, makes room for a namespace when something
is put into it, and drops it with the last thing in it.  None of this shows: what is found is what
a single table would give whose keys are pairs of a namespace and a name, and the namespaces are
those that occur in its keys.

## Main definitions

* `Table α` — a finite table, by namespace and name together.
* `Namespaced.ReadsAs` — a collection gives what a table does.
* `carryAll` — operations carried out one after the other, with their answers.

The main statements are `Namespaced.ReadsAs.insert`, `Namespaced.ReadsAs.erase` and
`carryAll_related`, which takes what single operations have in common to runs of them.
-/

namespace Placement

variable {α : Type}

/-- A finite table of things, by namespace and name together. -/
abbrev Table (α : Type) :=
  Finmap fun _ : String × String => α

namespace Namespaced

variable {c : Namespaced α} {table : Table α} {ns name : String}

/-- What a collection holds under a namespace and a name is what the table gives for both. -/
def ReadsAs (c : Namespaced α) (table : Table α) : Prop :=
  ∀ ns name, c.get? ns name = table.lookup (ns, name)

theorem readsAs_empty : ReadsAs (∅ : Namespaced α) ∅ := by
  intro ns name
  rw [get?_empty, Finmap.lookup_empty]

theorem ReadsAs.insert (h : c.ReadsAs table) (ns name : String) (a : α) :
    (c.insert ns name a).ReadsAs (table.insert (ns, name) a) := by
  intro ns' name'
  rw [get?_insert]
  split
  next same =>
    obtain ⟨rfl, rfl⟩ := same
    rw [Finmap.lookup_insert]
  next other =>
    have differ : (ns', name') ≠ (ns, name) := fun same =>
      other ⟨(Prod.mk.inj same).1.symm, (Prod.mk.inj same).2.symm⟩
    rw [Finmap.lookup_insert_of_ne table differ, h]

theorem ReadsAs.erase (h : c.ReadsAs table) (ns name : String) :
    (c.erase ns name).ReadsAs (table.erase (ns, name)) := by
  intro ns' name'
  rw [get?_erase]
  split
  next same =>
    obtain ⟨rfl, rfl⟩ := same
    rw [Finmap.lookup_erase]
  next other =>
    have differ : (ns', name') ≠ (ns, name) := fun same =>
      other ⟨(Prod.mk.inj same).1.symm, (Prod.mk.inj same).2.symm⟩
    rw [Finmap.lookup_erase_ne differ, h]

/-- The namespaces of a collection are those in the keys of its table. -/
theorem ReadsAs.mem_namespaces (h : c.ReadsAs table) :
    ns ∈ c.namespaces ↔ ∃ name, (ns, name) ∈ table := by
  simp only [Namespaced.mem_namespaces, h ns, Finmap.lookup_isSome]

/-- The contents of a namespace are what the table has under some key of it. -/
theorem ReadsAs.mem_values (h : c.ReadsAs table) {a : α} :
    a ∈ c.values ns ↔ ∃ name, table.lookup (ns, name) = some a := by
  simp only [Namespaced.mem_values, h ns]

/-- No namespace is listed twice. -/
theorem nodup_namespaces (c : Namespaced α) : c.namespaces.Nodup :=
  Std.ExtTreeMap.nodup_keys

end Namespaced

/-! ## Operations one after the other -/

section Runs

variable {σ τ ω : Type}

/-- The answers of operations that are carried out one after the other, and what is left. -/
def carryAll (carry : σ → ω → α × σ) (s : σ) : List ω → List α × σ
  | [] => ([], s)
  | operation :: rest =>
    let (answer, next) := carry s operation
    let (answers, last) := carryAll carry next rest
    (answer :: answers, last)

/-- **What operations on two states have in common, runs of them have.**  If related states answer
alike and stay related, a run gives the same answers from both, and leaves them related. -/
theorem carryAll_related {R : σ → τ → Prop} {carry : σ → ω → α × σ} {carry' : τ → ω → α × τ}
    (alike : ∀ s t operation, R s t →
      (carry s operation).1 = (carry' t operation).1 ∧
        R (carry s operation).2 (carry' t operation).2)
    {s : σ} {t : τ} (h : R s t) (operations : List ω) :
    (carryAll carry s operations).1 = (carryAll carry' t operations).1 ∧
      R (carryAll carry s operations).2 (carryAll carry' t operations).2 := by
  induction operations generalizing s t with
  | nil => exact ⟨rfl, h⟩
  | cons operation rest ih =>
    obtain ⟨answer, next⟩ := alike s t operation h
    obtain ⟨answers, last⟩ := ih next
    exact ⟨by simp only [carryAll, answer, answers], last⟩

end Runs

end Placement
