import Std.Data.ExtTreeMap

/-!
# Collections kept by namespace

A collection of named things, grouped by namespace.  A namespace is only kept
while something is in it, so two collections with the same contents are equal.

## Main definitions

* `Namespaced α` — the collection.
* `get?`, `insert`, `erase` — one thing, by namespace and name.
* `group`, `values`, `namespaces` — the contents of a namespace, and which there are.

Every operation is described by what `get?` answers afterwards; `ext` says that
nothing else is in a collection.
-/

namespace Placement

universe u

/-- Things of type `α`, by namespace and then by name. -/
structure Namespaced (α : Type u) where
  groups : Std.ExtTreeMap String (Std.ExtTreeMap String α)
  group_ne_empty : ∀ (ns : String) (named : Std.ExtTreeMap String α),
    groups[ns]? = some named → named ≠ ∅

namespace Namespaced

variable {α : Type u}

instance : EmptyCollection (Namespaced α) := ⟨⟨∅, by simp⟩⟩

instance : Inhabited (Namespaced α) := ⟨∅⟩

instance [DecidableEq α] : DecidableEq (Namespaced α) := fun a b =>
  decidable_of_iff (a.groups = b.groups) ⟨fun h => by cases a; cases b; simp_all, fun h => h ▸ rfl⟩

/-- The contents of a namespace, by name. -/
def group (c : Namespaced α) (ns : String) : Std.ExtTreeMap String α :=
  c.groups[ns]?.getD ∅

/-- The thing of that namespace and name. -/
def get? (c : Namespaced α) (ns name : String) : Option α :=
  (c.group ns)[name]?

/-- Puts a thing under a namespace and name, in place of what was there. -/
def insert (c : Namespaced α) (ns name : String) (a : α) : Namespaced α where
  groups := c.groups.insert ns ((c.group ns).insert name a)
  group_ne_empty := by
    intro ns' named h
    rw [Std.ExtTreeMap.getElem?_insert] at h
    split at h
    · obtain rfl := Option.some.inj h
      exact Std.ExtTreeMap.insert_ne_empty
    · exact c.group_ne_empty ns' named h

/-- Takes away the thing of that namespace and name, and the namespace with it
when that was the last. -/
def erase (c : Namespaced α) (ns name : String) : Namespaced α :=
  if left : ((c.group ns).erase name).isEmpty then
    ⟨c.groups.erase ns, by
      intro ns' named h
      rw [Std.ExtTreeMap.getElem?_erase] at h
      split at h
      · cases h
      · exact c.group_ne_empty ns' named h⟩
  else
    ⟨c.groups.insert ns ((c.group ns).erase name), by
      intro ns' named h
      rw [Std.ExtTreeMap.getElem?_insert] at h
      split at h
      · obtain rfl := Option.some.inj h
        exact fun gone => left (Std.ExtTreeMap.isEmpty_iff.2 gone)
      · exact c.group_ne_empty ns' named h⟩

/-- The contents of a namespace in the order of their names. -/
def values (c : Namespaced α) (ns : String) : List α :=
  (c.group ns).toList.map (·.2)

/-- The namespaces that hold something, in order. -/
def namespaces (c : Namespaced α) : List String :=
  c.groups.keys

/-! ## What the operations do to the contents -/

@[simp] theorem group_empty (ns : String) : (∅ : Namespaced α).group ns = ∅ := by
  show ((∅ : Std.ExtTreeMap String _)[ns]?).getD ∅ = ∅
  simp

@[simp] theorem get?_empty (ns name : String) : (∅ : Namespaced α).get? ns name = none := by
  simp [get?]

theorem group_insert (c : Namespaced α) (ns name ns' : String) (a : α) :
    (c.insert ns name a).group ns' =
      if ns = ns' then (c.group ns).insert name a else c.group ns' := by
  simp only [group, insert, Std.ExtTreeMap.getElem?_insert, Std.LawfulEqCmp.compare_eq_iff_eq]
  split <;> simp_all

theorem group_erase (c : Namespaced α) (ns name ns' : String) :
    (c.erase ns name).group ns' =
      if ns = ns' then (c.group ns).erase name else c.group ns' := by
  unfold erase
  split
  next left =>
    rw [Std.ExtTreeMap.isEmpty_iff] at left
    simp only [group, Std.ExtTreeMap.getElem?_erase, Std.LawfulEqCmp.compare_eq_iff_eq] at left ⊢
    split <;> simp_all
  next =>
    simp only [group, Std.ExtTreeMap.getElem?_insert, Std.LawfulEqCmp.compare_eq_iff_eq]
    split <;> simp_all

/-- An insertion changes what is under its own namespace and name only. -/
theorem get?_insert (c : Namespaced α) (ns name ns' name' : String) (a : α) :
    (c.insert ns name a).get? ns' name' =
      if ns = ns' ∧ name = name' then some a else c.get? ns' name' := by
  simp only [get?, group_insert]
  by_cases hns : ns = ns'
  · subst hns
    simp [Std.ExtTreeMap.getElem?_insert, Std.LawfulEqCmp.compare_eq_iff_eq]
  · simp [hns]

/-- A removal changes what is under its own namespace and name only. -/
theorem get?_erase (c : Namespaced α) (ns name ns' name' : String) :
    (c.erase ns name).get? ns' name' =
      if ns = ns' ∧ name = name' then none else c.get? ns' name' := by
  simp only [get?, group_erase]
  by_cases hns : ns = ns'
  · subst hns
    simp [Std.ExtTreeMap.getElem?_erase, Std.LawfulEqCmp.compare_eq_iff_eq]
  · simp [hns]

/-- The contents of a namespace are what is under some name in it. -/
theorem mem_values (c : Namespaced α) (ns : String) (a : α) :
    a ∈ c.values ns ↔ ∃ name, c.get? ns name = some a := by
  simp only [values, List.mem_map, Prod.exists, Std.ExtTreeMap.mem_toList_iff_getElem?_eq_some]
  constructor
  · rintro ⟨name, b, found, rfl⟩
    exact ⟨name, found⟩
  · rintro ⟨name, found⟩
    exact ⟨name, a, found, rfl⟩

/-- A namespace is listed when something is in it. -/
theorem mem_namespaces (c : Namespaced α) (ns : String) :
    ns ∈ c.namespaces ↔ ∃ name, (c.get? ns name).isSome := by
  rw [namespaces, Std.ExtTreeMap.mem_keys]
  constructor
  · intro h
    obtain ⟨named, found⟩ : ∃ named, c.groups[ns]? = some named := by
      rw [← Option.isSome_iff_exists, ← Std.ExtTreeMap.mem_iff_isSome_getElem?]
      exact h
    have held := c.group_ne_empty ns named found
    refine Classical.byContradiction fun no_name => held (Std.ExtTreeMap.ext_getElem? fun name => ?_)
    have missing : ¬(c.get? ns name).isSome := fun h => no_name ⟨name, h⟩
    simpa [get?, group, found] using missing
  · rintro ⟨name, h⟩
    rw [Std.ExtTreeMap.mem_iff_isSome_getElem?]
    cases found : c.groups[ns]? with
    | some named => rfl
    | none => simp [get?, group, found] at h

/-- Collections that answer every question alike are the same. -/
@[ext] theorem ext {c d : Namespaced α} (h : ∀ ns name, c.get? ns name = d.get? ns name) :
    c = d := by
  have contents : ∀ ns, c.group ns = d.group ns := fun ns => Std.ExtTreeMap.ext_getElem? (h ns)
  have groups : c.groups = d.groups := by
    apply Std.ExtTreeMap.ext_getElem?
    intro ns
    have same := contents ns
    unfold group at same
    cases hc : c.groups[ns]? with
    | none =>
      cases hd : d.groups[ns]? with
      | none => rfl
      | some named => exact absurd (by simpa [hc, hd] using same.symm) (d.group_ne_empty ns named hd)
    | some named =>
      cases hd : d.groups[ns]? with
      | none => exact absurd (by simpa [hc, hd] using same) (c.group_ne_empty ns named hc)
      | some other => simpa [hc, hd] using same
  cases c
  cases d
  simp_all

/-- Of two insertions under one name the later counts. -/
theorem insert_insert (c : Namespaced α) (ns name : String) (a b : α) :
    (c.insert ns name a).insert ns name b = c.insert ns name b := by
  ext ns' name' : 2
  simp only [get?_insert]
  split <;> rfl

/-- Putting a thing where it is already changes nothing. -/
theorem insert_of_get? {c : Namespaced α} {ns name : String} {a : α}
    (h : c.get? ns name = some a) : c.insert ns name a = c := by
  ext ns' name' : 2
  rw [get?_insert]
  split
  next same => rw [← same.1, ← same.2, h]
  next => rfl

/-- Taking away what was put where nothing was changes nothing. -/
theorem erase_insert_of_get? {c : Namespaced α} {ns name : String} {a : α}
    (h : c.get? ns name = none) : (c.insert ns name a).erase ns name = c := by
  ext ns' name' : 2
  rw [get?_erase, get?_insert]
  split
  next same => rw [← same.1, ← same.2, h]
  next => rfl

end Namespaced

end Placement
