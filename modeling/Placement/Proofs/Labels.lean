import Mathlib.Data.List.Perm.Subperm
import Placement.Labels

/-!
# What labels satisfy a selector

Looking at sizes first changes nothing: labels that hold every required binding are at least as
many.  What satisfies what is then an order of the maps of labels, that of inclusion.

The main statements are `satisfies_iff` and `satisfies_orders`.
-/

namespace Placement.Labels

section Map

variable {α β : Type} {cmp : α → α → Ordering}

/-- A test holds of all bindings of a map if it holds of all entries of its list.  The loop that
runs over the map is the loop over that list, which ends at the first entry that fails. -/
theorem all_eq_toList_all_dependent (t : Std.DTreeMap α (fun _ => β) cmp) (p : α → β → Bool) :
    t.all p = (Std.DTreeMap.Const.toList t).all fun e => p e.1 e.2 := by
  unfold Std.DTreeMap.all Std.DTreeMap.Internal.Impl.all
  have loop (f : (_ : α) × β → Option Bool × Unit → Id (ForInStep (Option Bool × Unit))) :
      forIn t.inner (none, ()) f =
        forIn (Std.DTreeMap.Const.toList t) (none, ()) fun e => f ⟨e.1, e.2⟩ :=
    Std.DTreeMap.Internal.Impl.Const.forIn_eq_forIn_toList
  rw [loop]
  induction Std.DTreeMap.Const.toList t with
  | nil => rfl
  | cons e entries ih =>
    rw [List.forIn_cons, List.all_cons, ← ih]
    cases h : p e.1 e.2 <;> simp [h]

variable [Std.TransCmp cmp]

theorem all_eq_toList_all (t : Std.ExtTreeMap α β cmp) (p : α → β → Bool) :
    t.all p = t.toList.all fun e => p e.1 e.2 := by
  obtain ⟨inner⟩ := t
  induction inner using Std.ExtDTreeMap.inductionOn with
  | _ t => exact all_eq_toList_all_dependent t p

/-- A test holds of all bindings of a map if it holds of each of them. -/
theorem all_eq_true_iff [Std.LawfulEqCmp cmp] {t : Std.ExtTreeMap α β cmp} {p : α → β → Bool} :
    t.all p = true ↔ ∀ key value, t[key]? = some value → p key value = true := by
  simp only [all_eq_toList_all, List.all_eq_true, Prod.forall,
    Std.ExtTreeMap.mem_toList_iff_getElem?_eq_some]

end Map

variable {actual required : Labels}

/-! ## Inclusion -/

theorem Includes.refl (labels : Labels) : labels.Includes labels := by
  intro key value bound
  exact bound

theorem Includes.trans {labels : Labels} (h : actual.Includes labels)
    (h' : labels.Includes required) : actual.Includes required := by
  intro key value bound
  exact h key value (h' key value bound)

/-- Labels that hold all bindings of each other are the same. -/
theorem Includes.antisymm (h : actual.Includes required) (h' : required.Includes actual) :
    actual = required := by
  apply Std.ExtTreeMap.ext_getElem?
  intro key
  apply Option.ext
  intro value
  exact ⟨h' key value, h key value⟩

/-- Labels that hold every required binding are at least as many. -/
theorem Includes.size_le (h : actual.Includes required) : required.size ≤ actual.size := by
  have keys : required.keys ⊆ actual.keys := by
    intro key hk
    rw [Std.ExtTreeMap.mem_keys] at *
    have there := h key _ (Std.ExtTreeMap.getElem?_eq_some_getElem hk)
    exact Std.ExtTreeMap.mem_iff_isSome_getElem?.mpr (by simp [there])
  rw [← Std.ExtTreeMap.length_keys, ← Std.ExtTreeMap.length_keys]
  exact (List.subperm_of_subset Std.ExtTreeMap.nodup_keys keys).length_le

/-! ## The test -/

/-- **Labels satisfy a selector exactly when they hold every binding that it requires.** -/
theorem satisfies_iff : actual.satisfies required = true ↔ actual.Includes required := by
  rw [satisfies]
  split
  next fewer => exact ⟨nofun, fun h => absurd h.size_le (Nat.not_le_of_lt fewer)⟩
  next => simp only [all_eq_true_iff, beq_iff_eq, Includes]

instance : Decidable (actual.Includes required) :=
  decidable_of_iff _ satisfies_iff

/-- The refusal by size refuses nothing that a look at all bindings would let pass. -/
theorem satisfies_eq_all (actual required : Labels) :
    actual.satisfies required = required.all fun key value => actual[key]? == some value := by
  rw [Bool.eq_iff_iff, satisfies_iff, all_eq_true_iff]
  simp only [beq_iff_eq, Includes]

/-- **Satisfying is an order of labels.**  The test gives what the test without its look at the
sizes gives, which is whether every required key is bound to the required value.  All labels
satisfy themselves, what satisfies labels satisfies whatever these satisfy, and only equal labels
satisfy each other. -/
theorem satisfies_orders :
    (∀ actual required : Labels,
      (actual.satisfies required = required.all fun key value => actual[key]? == some value) ∧
        (actual.satisfies required = true ↔
          ∀ key value : String, required[key]? = some value → actual[key]? = some value)) ∧
      (∀ labels : Labels, labels.satisfies labels = true) ∧
      (∀ actual labels required : Labels, actual.satisfies labels = true →
        labels.satisfies required = true → actual.satisfies required = true) ∧
      ∀ actual required : Labels,
        actual.satisfies required = true ∧ required.satisfies actual = true ↔
          actual = required := by
  refine ⟨?plain, ?reflexive, ?transitive, ?antisymmetric⟩
  case plain =>
    intro actual required
    exact ⟨satisfies_eq_all actual required, satisfies_iff⟩
  case reflexive =>
    intro labels
    exact satisfies_iff.mpr (Includes.refl labels)
  case transitive =>
    intro actual labels required h h'
    exact satisfies_iff.mpr ((satisfies_iff.mp h).trans (satisfies_iff.mp h'))
  case antisymmetric =>
    intro actual required
    constructor
    · intro both
      exact (satisfies_iff.mp both.1).antisymm (satisfies_iff.mp both.2)
    · rintro rfl
      exact ⟨satisfies_iff.mpr (Includes.refl actual), satisfies_iff.mpr (Includes.refl actual)⟩

end Placement.Labels
