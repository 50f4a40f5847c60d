import Mathlib.Data.List.Basic
import Mathlib.Data.List.TakeWhile
import Placement.Catalog
import Placement.Watch.Key

/-!
# Keys tell names

A key with a namespace and a name in it falls apart in one way only, as long as the part
before the slash holds no slash itself.  So the key of a policy tells which policy it is, no
other text is taken for a key, and pods of different names are filed under different texts.

## Main definitions

* `Segment` — what can stand between the slashes of a key.

The main statements are `parsePolicyKey_policyKey`, `policyKey_inj`, `parsePolicyKey_exact` and
`fileKey_inj`.
-/

namespace Placement.Watch

variable {start ns name ns' name' : String}

/-- A text that is neither empty nor has a slash in it. -/
def Segment (text : String) : Prop :=
  text ≠ "" ∧ '/' ∉ text.toList

instance (text : String) : Decidable (Segment text) :=
  inferInstanceAs (Decidable (_ ∧ _))

/-! ## The first slash -/

theorem ne_slash {before : List Char} (h : '/' ∉ before) :
    ∀ c ∈ before, (decide (c ≠ '/')) = true := by
  intro c there
  rw [decide_eq_true_eq]
  rintro rfl
  exact h there

theorem takeWhile_slash {before : List Char} (h : '/' ∉ before) (after : List Char) :
    (before ++ '/' :: after).takeWhile (· ≠ '/') = before := by
  rw [List.takeWhile_append_of_pos (ne_slash h)]
  simp

theorem dropWhile_slash {before : List Char} (h : '/' ∉ before) (after : List Char) :
    (before ++ '/' :: after).dropWhile (· ≠ '/') = '/' :: after := by
  rw [List.dropWhile_append_of_pos (ne_slash h)]
  simp

/-- At its first slash a text falls apart in one way. -/
theorem append_slash_inj {before before' after after' : List Char} (h : '/' ∉ before)
    (h' : '/' ∉ before') (same : before ++ '/' :: after = before' ++ '/' :: after') :
    before = before' ∧ after = after' := by
  have first := congrArg (List.takeWhile (· ≠ '/')) same
  rw [takeWhile_slash h, takeWhile_slash h'] at first
  subst first
  exact ⟨rfl, by simpa using same⟩

/-! ## Keys of policies -/

theorem toList_policyKey (start ns name : String) :
    (policyKey start ns name).toList = start.toList ++ (ns.toList ++ '/' :: name.toList) := by
  simp [policyKey]

theorem splitName_segments (hns : Segment ns) (hname : Segment name) :
    splitName (ns.toList ++ '/' :: name.toList) = some (ns, name) := by
  simp only [splitName, takeWhile_slash hns.2, dropWhile_slash hns.2]
  rw [if_neg (by simp [hns.1, hname.1, hname.2]), String.ofList_toList, String.ofList_toList]

/-- **The key of a policy tells its namespace and its name.** -/
theorem parsePolicyKey_policyKey (start : String) (hns : Segment ns) (hname : Segment name) :
    parsePolicyKey (policyKey start ns name) start = some (ns, name) := by
  have rest : start.toList.isPrefixOf? (policyKey start ns name).toList =
      some (ns.toList ++ '/' :: name.toList) :=
    List.isPrefixOf?_eq_some_iff_append_eq.mpr (toList_policyKey start ns name).symm
  rw [parsePolicyKey, rest, Option.bind_some, splitName_segments hns hname]

theorem splitName_of_no_slash {text : List Char} (h : '/' ∉ text) : splitName text = none := by
  have none_left : text.dropWhile (· ≠ '/') = [] := by
    rw [List.dropWhile_eq_nil_iff]
    exact ne_slash h
  simp only [splitName, none_left]

/-- What is split is a namespace, a slash and a name. -/
theorem eq_of_splitName {text : List Char} (split : splitName text = some (ns, name)) :
    text = ns.toList ++ '/' :: name.toList ∧ Segment ns ∧ Segment name := by
  by_cases there : '/' ∈ text
  · obtain ⟨before, after, rfl, clear⟩ := List.eq_append_cons_of_mem there
    simp only [splitName, takeWhile_slash clear, dropWhile_slash clear, not_or,
      Option.ite_none_left_eq_some, Option.some.injEq, Prod.mk.injEq,
      List.contains_iff_mem] at split
    obtain ⟨⟨some_ns, some_name, single⟩, rfl, rfl⟩ := split
    simp only [Segment, String.toList_ofList]
    exact ⟨trivial, ⟨by simpa using some_ns, clear⟩, by simpa using some_name, single⟩
  · rw [splitName_of_no_slash there] at split
    exact absurd split nofun

/-- A key is read as a namespace and a name if it is their key, and in no other case. -/
theorem parsePolicyKey_eq_some_iff {key : String} :
    parsePolicyKey key start = some (ns, name) ↔
      key = policyKey start ns name ∧ Segment ns ∧ Segment name := by
  constructor
  · intro read
    obtain ⟨rest, begins, split⟩ := Option.bind_eq_some_iff.mp read
    obtain ⟨rfl, hns, hname⟩ := eq_of_splitName split
    have whole := List.isPrefixOf?_eq_some_iff_append_eq.mp begins
    rw [← toList_policyKey] at whole
    exact ⟨(String.toList_inj.mp whole).symm, hns, hname⟩
  · rintro ⟨rfl, hns, hname⟩
    exact parsePolicyKey_policyKey start hns hname

/-- Different policies have different keys. -/
theorem policyKey_inj (hns : Segment ns) (hns' : Segment ns')
    (same : policyKey start ns name = policyKey start ns' name') : ns = ns' ∧ name = name' := by
  have texts := congrArg String.toList same
  rw [toList_policyKey, toList_policyKey, List.append_cancel_left_eq] at texts
  obtain ⟨first, second⟩ := append_slash_inj hns.2 hns'.2 texts
  exact ⟨String.toList_inj.mp first, String.toList_inj.mp second⟩

/-- **The reading of keys is exact**, whatever they begin with.  A text is read as a namespace and
a name exactly when it is the common beginning, the namespace, a slash and the name, and neither of
the two is empty or holds a slash.  So a key that was made of the two tells both, different ones
have different keys, and whatever is no such key is refused. -/
theorem parsePolicyKey_exact (start : String) :
    (∀ key ns name, parsePolicyKey key start = some (ns, name) ↔
      key = start ++ ns ++ "/" ++ name ∧ Segment ns ∧ Segment name) ∧
      (∀ ns name, Segment ns → Segment name →
        parsePolicyKey (policyKey start ns name) start = some (ns, name)) ∧
      (∀ ns name ns' name', Segment ns → Segment ns' →
        policyKey start ns name = policyKey start ns' name' → ns = ns' ∧ name = name') ∧
      ∀ key, parsePolicyKey key start = none ↔
        ∀ ns name, Segment ns → Segment name → key ≠ policyKey start ns name := by
  refine ⟨?exact, ?inverse, ?injective, ?refused⟩
  case exact =>
    intro key ns name
    exact parsePolicyKey_eq_some_iff
  case inverse =>
    intro ns name hns hname
    exact parsePolicyKey_policyKey start hns hname
  case injective =>
    intro ns name ns' name' hns hns' same
    exact policyKey_inj hns hns' same
  case refused =>
    intro key
    constructor
    · rintro none_read ns name hns hname rfl
      rw [parsePolicyKey_policyKey start hns hname] at none_read
      exact absurd none_read nofun
    · intro no_key
      rw [Option.eq_none_iff_forall_ne_some]
      rintro ⟨ns, name⟩ read
      obtain ⟨same, hns, hname⟩ := parsePolicyKey_eq_some_iff.mp read
      exact no_key ns name hns hname same

/-! ## Texts of pods -/

theorem toList_fileKey (ns name : String) :
    (Pod.fileKey ns name).toList = ns.toList ++ '/' :: name.toList := by
  simp [Pod.fileKey]

/-- Different pods are filed under different texts, if their namespaces hold no slash. -/
theorem fileKey_inj (hns : '/' ∉ ns.toList) (hns' : '/' ∉ ns'.toList)
    (same : Pod.fileKey ns name = Pod.fileKey ns' name') : ns = ns' ∧ name = name' := by
  have texts := congrArg String.toList same
  rw [toList_fileKey, toList_fileKey] at texts
  obtain ⟨first, second⟩ := append_slash_inj hns hns' texts
  exact ⟨String.toList_inj.mp first, String.toList_inj.mp second⟩

end Placement.Watch
