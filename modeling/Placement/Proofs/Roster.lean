import Placement.Proofs.Target
import Placement.Roster

/-!
# What the operations do to a roster

Each operation on a roster first computes the required number for the pods it will
hold, and then cannot fail any more; so one that fails leaves the roster as it was.
Every operation is given in closed form: the required number, put into a roster that is
described without any failure.

## Main definitions

* `Roster.respecified`, `Roster.accept`, `Roster.release` — the roster after an
  operation, once the required number is known.
* `Roster.attempt` — an operation in place that needs the required number first.
* `Roster.Consistent` — the claimed pods are governed, and whether the target is met
  is told rightly.
* `Roster.Obtainable` — the rosters that operations can make.

The main statements are `respecify_inPlace`, `enlist_inPlace` and `discharge_inPlace`,
which say what the operations do, and `Obtainable.consistent`.
-/

namespace Placement.Roster

variable {r s : Roster} {key : String} {action : Action} {target : TargetSize} {wanted : Int}

theorem qualifies_iff : r.qualifies key = true ↔ key ∈ r.qualified := by
  simp [qualifies]

theorem isEmpty_iff : r.isEmpty = true ↔ r.qualified = ∅ :=
  Std.ExtTreeSet.isEmpty_iff

/-- A roster with a pod on it is not empty. -/
theorem isEmpty_of_mem (h : key ∈ r.qualified) : r.isEmpty = false := by
  rw [Bool.eq_false_iff]
  intro empty
  rw [isEmpty_iff.mp empty] at h
  exact Std.ExtTreeSet.not_mem_empty h

/-! ## The operations in closed form -/

/-- The roster under another action and target, of which `wanted` pods are required. -/
def respecified (r : Roster) (action : Action) (target : TargetSize) (wanted : Int) : Roster :=
  { r with action := action, target := target, targetMet := r.meets wanted }

/-- The roster after a pod has joined while `wanted` pods are required. -/
def accept (r : Roster) (key : String) (wanted : Int) : Roster :=
  let managed := if r.meets wanted then r.managed else r.managed.insert key
  { r with
    qualified := r.qualified.insert key
    managed := managed
    targetMet := wanted ≤ managed.size }

/-- The roster after a pod has left while `wanted` pods are required of the rest. -/
def release (r : Roster) (key : String) (wanted : Int) : Roster :=
  { r with
    qualified := r.qualified.erase key
    managed := r.managed.erase key
    targetMet := wanted ≤ (r.managed.erase key).size }

/-- A pod that is accepted is one pod more on the roster. -/
theorem size_qualified_accept (absent : key ∉ r.qualified) :
    (r.accept key wanted).qualified.size = r.qualified.size + 1 := by
  simp [accept, Std.ExtTreeSet.size_insert, absent]

/-- A pod that is released is one pod less on the roster. -/
theorem size_qualified_release (present : key ∈ r.qualified) :
    (r.release key wanted).qualified.size + 1 = r.qualified.size := by
  have some_pod : r.qualified.size ≠ 0 := fun empty => by
    rw [Std.ExtTreeSet.eq_empty_iff_size_eq_zero.mpr empty] at present
    exact Std.ExtTreeSet.not_mem_empty present
  simp only [release, Std.ExtTreeSet.size_erase, Std.ExtTreeSet.contains_iff_mem, if_pos present]
  omega

theorem mem_qualified_accept {k : String} :
    k ∈ (r.accept key wanted).qualified ↔ k = key ∨ k ∈ r.qualified := by
  simp only [accept, Std.ExtTreeSet.mem_insert, Std.LawfulEqCmp.compare_eq_iff_eq]
  rw [eq_comm]

/-- A pod that has not been claimed yet is claimed while the target is not met. -/
theorem manages_accept (unclaimed : key ∉ r.managed) :
    (r.accept key wanted).manages key = !r.meets wanted := by
  simp only [accept, manages]
  split
  next met => simp [met, unclaimed]
  next unmet => simp [unmet]

/-- A pod that is accepted is one claimed pod more, or it is not claimed. -/
theorem size_managed_accept (unclaimed : key ∉ r.managed) :
    (r.accept key wanted).managed.size =
      r.managed.size + if (r.accept key wanted).manages key then 1 else 0 := by
  rw [manages_accept unclaimed]
  simp only [accept]
  split
  next met => simp [met]
  next unmet => simp [unmet, Std.ExtTreeSet.size_insert, unclaimed]

/-- The newcomer is one claimed pod more as long as the number required with it is not
reached. -/
theorem size_managed_accept_eq (unclaimed : key ∉ r.managed) :
    (r.accept key wanted).managed.size =
      if wanted ≤ r.managed.size then r.managed.size else r.managed.size + 1 := by
  rw [size_managed_accept unclaimed, manages_accept unclaimed, meets]
  by_cases reached : wanted ≤ r.managed.size <;> simp [reached]

/-- A change that needs the required number, and fails before it begins if there is none. -/
def attempt (r : Roster) (required : Except PlacementError Int) (change : Int → Roster) :
    Except PlacementError Unit × Roster :=
  match required with
  | .error e => (.error e, r)
  | .ok wanted => (.ok (), change wanted)

theorem ifDone_attempt (r : Roster) (required : Except PlacementError Int)
    (change : Int → Roster) : ifDone (r.attempt required change) = required.map change := by
  cases required <;> rfl

theorem ifDone_eq_ok {result : Except PlacementError Unit × Roster} (h : ifDone result = .ok s) :
    result.2 = s := by
  obtain ⟨_ | _, left⟩ := result
  · cases h
  · exact Except.ok.inj h

theorem respecify_inPlace (r : Roster) (action : Action) (target : TargetSize) :
    InPlace.respecify r action target =
      r.attempt (target.required r.qualified.size action) (r.respecified action target) :=
  rfl

theorem enlist_inPlace_of_mem (h : key ∈ r.qualified) : InPlace.enlist r key = (.ok (), r) := by
  simp [InPlace.enlist, qualifies_iff.mpr h]

/-- The second look at the target, after the pod has been claimed, cannot fail any more: it
computes what the first one has computed. -/
theorem enlist_inPlace (h : key ∉ r.qualified) :
    InPlace.enlist r key =
      r.attempt (r.required (r.qualified.size + 1)) (r.accept key) := by
  have size : (r.qualified.insert key).size = r.qualified.size + 1 := by
    simp [Std.ExtTreeSet.size_insert, h]
  have absent : r.qualifies key = false := by simp [qualifies, h]
  rw [InPlace.enlist, if_neg (by simp [absent])]
  cases hw : r.required (r.qualified.size + 1) with
  | error e => rfl
  | ok wanted =>
    have again : r.target.required (r.qualified.size + 1) r.action = .ok wanted := hw
    by_cases met : wanted ≤ r.managed.size
    · simp [met, attempt, accept, meets]
    · simp [met, attempt, accept, InPlace.reassess, required, size, again, meets]

theorem discharge_inPlace_of_not_mem (h : key ∉ r.qualified) :
    InPlace.discharge r key = (.ok (), r) := by
  simp [InPlace.discharge, qualifies, h]

/-- The second look at the target, after the pod is gone, cannot fail any more. -/
theorem discharge_inPlace (h : key ∈ r.qualified) :
    InPlace.discharge r key =
      r.attempt (r.required (r.qualified.size - 1)) (r.release key) := by
  have size : (r.qualified.erase key).size = r.qualified.size - 1 := by
    simp [Std.ExtTreeSet.size_erase, h]
  rw [InPlace.discharge, if_pos (qualifies_iff.mpr h)]
  cases hw : r.required (r.qualified.size - 1) with
  | error e => rfl
  | ok wanted =>
    have again : r.target.required (r.qualified.size - 1) r.action = .ok wanted := hw
    simp [attempt, release, InPlace.reassess, required, size, again, meets]

theorem respecify_eq (r : Roster) (action : Action) (target : TargetSize) :
    r.respecify action target =
      (target.required r.qualified.size action).map (r.respecified action target) := by
  rw [respecify, respecify_inPlace, ifDone_attempt]

theorem enlist_of_mem (h : key ∈ r.qualified) : r.enlist key = .ok r := by
  rw [enlist, enlist_inPlace_of_mem h, ifDone]

/-- Joining fails with the required number or not at all. -/
theorem enlist_eq (h : key ∉ r.qualified) :
    r.enlist key = (r.required (r.qualified.size + 1)).map (r.accept key) := by
  rw [enlist, enlist_inPlace h, ifDone_attempt]

theorem discharge_of_not_mem (h : key ∉ r.qualified) : r.discharge key = .ok r := by
  rw [discharge, discharge_inPlace_of_not_mem h, ifDone]

/-- Leaving fails with the required number or not at all. -/
theorem discharge_eq (h : key ∈ r.qualified) :
    r.discharge key = (r.required (r.qualified.size - 1)).map (r.release key) := by
  rw [discharge, discharge_inPlace h, ifDone_attempt]

/-! ## Success -/

private theorem map_eq_ok {ε α β : Type} {x : Except ε α} {f : α → β} {b : β}
    (h : x.map f = .ok b) : ∃ a, x = .ok a ∧ f a = b := by
  cases x with
  | error e => cases h
  | ok a => exact ⟨a, rfl, Except.ok.inj h⟩

theorem respecify_eq_ok (h : r.respecify action target = .ok s) :
    ∃ wanted, target.required r.qualified.size action = .ok wanted ∧
      s = r.respecified action target wanted := by
  rw [respecify_eq] at h
  obtain ⟨wanted, hw, rfl⟩ := map_eq_ok h
  exact ⟨wanted, hw, rfl⟩

/-- A pod that has joined was there before, or it is accepted now. -/
theorem enlist_eq_ok (h : r.enlist key = .ok s) :
    (key ∈ r.qualified ∧ s = r) ∨
      (key ∉ r.qualified ∧ ∃ wanted, r.required (r.qualified.size + 1) = .ok wanted ∧
        s = r.accept key wanted) := by
  by_cases present : key ∈ r.qualified
  · rw [enlist_of_mem present] at h
    exact .inl ⟨present, (Except.ok.inj h).symm⟩
  · rw [enlist_eq present] at h
    obtain ⟨wanted, hw, rfl⟩ := map_eq_ok h
    exact .inr ⟨present, wanted, hw, rfl⟩

/-- A pod that has left was not there before, or it is released now. -/
theorem discharge_eq_ok (h : r.discharge key = .ok s) :
    (key ∉ r.qualified ∧ s = r) ∨
      (key ∈ r.qualified ∧ ∃ wanted, r.required (r.qualified.size - 1) = .ok wanted ∧
        s = r.release key wanted) := by
  by_cases present : key ∈ r.qualified
  · rw [discharge_eq present] at h
    obtain ⟨wanted, hw, rfl⟩ := map_eq_ok h
    exact .inr ⟨present, wanted, hw, rfl⟩
  · rw [discharge_of_not_mem present] at h
    exact .inl ⟨present, (Except.ok.inj h).symm⟩

/-- Under a well-formed target every roster can be had. -/
theorem exists_respecify (h : target.WellFormed) (r : Roster) (action : Action) :
    ∃ s, r.respecify action target = .ok s := by
  obtain ⟨wanted, hw⟩ := TargetSize.exists_required h r.qualified.size action
  exact ⟨_, by rw [respecify_eq, hw]; rfl⟩

/-- Under a well-formed target every pod can join. -/
theorem exists_enlist (h : r.target.WellFormed) (key : String) : ∃ s, r.enlist key = .ok s := by
  by_cases present : key ∈ r.qualified
  · exact ⟨r, enlist_of_mem present⟩
  · obtain ⟨wanted, hw⟩ := TargetSize.exists_required h (r.qualified.size + 1) r.action
    exact ⟨_, by rw [enlist_eq present, required, hw]; rfl⟩

/-- Under a well-formed target every pod can leave. -/
theorem exists_discharge (h : r.target.WellFormed) (key : String) :
    ∃ s, r.discharge key = .ok s := by
  by_cases present : key ∈ r.qualified
  · obtain ⟨wanted, hw⟩ := TargetSize.exists_required h (r.qualified.size - 1) r.action
    exact ⟨_, by rw [discharge_eq present, required, hw]; rfl⟩
  · exact ⟨r, discharge_of_not_mem present⟩

/-- Joining leaves who and what a roster is for, and puts exactly the pod on it. -/
theorem enlist_frame (h : r.enlist key = .ok s) :
    s.ns = r.ns ∧ s.name = r.name ∧ s.action = r.action ∧ s.target = r.target ∧
      ∀ k, k ∈ s.qualified ↔ k = key ∨ k ∈ r.qualified := by
  obtain ⟨present, rfl⟩ | ⟨_, wanted, _, rfl⟩ := enlist_eq_ok h
  · refine ⟨rfl, rfl, rfl, rfl, fun k => ⟨.inr, ?_⟩⟩
    rintro (rfl | there)
    · exact present
    · exact there
  · exact ⟨rfl, rfl, rfl, rfl, fun k => mem_qualified_accept⟩

/-- Leaving leaves who and what a roster is for, and takes exactly the pod off it. -/
theorem discharge_frame (h : r.discharge key = .ok s) :
    s.ns = r.ns ∧ s.name = r.name ∧ s.action = r.action ∧ s.target = r.target ∧
      ∀ k, k ∈ s.qualified ↔ k ≠ key ∧ k ∈ r.qualified := by
  obtain ⟨absent, rfl⟩ | ⟨_, wanted, _, rfl⟩ := discharge_eq_ok h
  · refine ⟨rfl, rfl, rfl, rfl, fun k => ⟨fun there => ⟨?_, there⟩, And.right⟩⟩
    rintro rfl
    exact absent there
  · refine ⟨rfl, rfl, rfl, rfl, fun k => ?_⟩
    simp only [release, Std.ExtTreeSet.mem_erase, ne_eq, Std.LawfulEqCmp.compare_eq_iff_eq]
    rw [eq_comm]

/-! ## Consistency -/

/-- What a roster says about itself is right: only governed pods are claimed, and it tells whether
its target is met.  A roster whose target cannot be computed has no pods and does not meet it. -/
structure Consistent (r : Roster) : Prop where
  managed_subset : ∀ key ∈ r.managed, key ∈ r.qualified
  met : r.target.WellFormed →
    ∃ wanted, r.required r.qualified.size = .ok wanted ∧
      r.targetMet = decide (wanted ≤ r.managed.size)
  malformed : ¬r.target.WellFormed → r.qualified = ∅ ∧ r.managed = ∅ ∧ r.targetMet = false

theorem consistent_new (ns name : String) (action : Action) (target : TargetSize) :
    (new ns name action target).Consistent where
  managed_subset key h := h
  met wf := by
    obtain ⟨wanted, hw⟩ : ∃ wanted, target.required 0 action = .ok wanted :=
      TargetSize.exists_required wf 0 action
    exact ⟨wanted, hw, by simp [new, hw]⟩
  malformed malformed := by
    obtain ⟨s, _, fails⟩ := TargetSize.required_of_not_wellFormed malformed
    refine ⟨rfl, rfl, ?_⟩
    have failed : target.required 0 action = _ := fails 0 action
    simp [new, failed]

/-- A roster whose required number was computed is consistent as soon as it claims
governed pods only and compares with that number. -/
theorem Consistent.of_required (subset : ∀ key ∈ r.managed, key ∈ r.qualified)
    (hw : r.required r.qualified.size = .ok wanted)
    (met : r.targetMet = decide (wanted ≤ r.managed.size)) : r.Consistent where
  managed_subset := subset
  met _ := ⟨wanted, hw, met⟩
  malformed malformed := absurd (TargetSize.wellFormed_of_required hw) malformed

theorem Consistent.attempt (c : r.Consistent) {required : Except PlacementError Int}
    {change : Int → Roster} (h : ∀ wanted, required = .ok wanted → (change wanted).Consistent) :
    (r.attempt required change).2.Consistent := by
  cases required with
  | error e => exact c
  | ok wanted => exact h wanted rfl

theorem Consistent.respecify (c : r.Consistent) (action : Action) (target : TargetSize) :
    (InPlace.respecify r action target).2.Consistent := by
  rw [respecify_inPlace]
  exact c.attempt fun wanted hw => .of_required c.managed_subset hw rfl

theorem Consistent.accept (c : r.Consistent) (absent : key ∉ r.qualified)
    (hw : r.required (r.qualified.size + 1) = .ok wanted) : (r.accept key wanted).Consistent := by
  have again : (r.accept key wanted).required (r.accept key wanted).qualified.size =
      .ok wanted := by
    rw [size_qualified_accept absent]
    exact hw
  refine .of_required ?_ again rfl
  intro k hk
  simp only [Roster.accept] at hk ⊢
  split at hk
  · exact Std.ExtTreeSet.mem_insert.mpr (.inr (c.managed_subset k hk))
  · rcases Std.ExtTreeSet.mem_insert.mp hk with same | hk
    · exact Std.ExtTreeSet.mem_insert.mpr (.inl same)
    · exact Std.ExtTreeSet.mem_insert.mpr (.inr (c.managed_subset k hk))

theorem Consistent.enlist (c : r.Consistent) (key : String) :
    (InPlace.enlist r key).2.Consistent := by
  by_cases present : key ∈ r.qualified
  · rw [enlist_inPlace_of_mem present]
    exact c
  · rw [enlist_inPlace present]
    exact c.attempt fun wanted hw => c.accept present hw

theorem Consistent.release (c : r.Consistent) (present : key ∈ r.qualified)
    (hw : r.required (r.qualified.size - 1) = .ok wanted) : (r.release key wanted).Consistent := by
  have size : (r.qualified.erase key).size = r.qualified.size - 1 := by
    simp [Std.ExtTreeSet.size_erase, present]
  have again : (r.release key wanted).required (r.release key wanted).qualified.size =
      .ok wanted := by
    simpa [Roster.release, required, size] using hw
  refine .of_required ?_ again rfl
  intro k hk
  obtain ⟨other, hk⟩ := Std.ExtTreeSet.mem_erase.mp hk
  exact Std.ExtTreeSet.mem_erase.mpr ⟨other, c.managed_subset k hk⟩

theorem Consistent.discharge (c : r.Consistent) (key : String) :
    (InPlace.discharge r key).2.Consistent := by
  by_cases present : key ∈ r.qualified
  · rw [discharge_inPlace present]
    exact c.attempt fun wanted hw => c.release present hw
  · rw [discharge_inPlace_of_not_mem present]
    exact c

/-- The rosters that operations can make in place, one from another, also by failing. -/
inductive Obtainable : Roster → Prop
  | new (ns name : String) (action : Action) (target : TargetSize) :
      Obtainable (new ns name action target)
  | respecify {r : Roster} (action : Action) (target : TargetSize) :
      Obtainable r → Obtainable (InPlace.respecify r action target).2
  | enlist {r : Roster} (key : String) : Obtainable r → Obtainable (InPlace.enlist r key).2
  | discharge {r : Roster} (key : String) : Obtainable r → Obtainable (InPlace.discharge r key).2
  | takeOver {r source : Roster} :
      Obtainable r → Obtainable source → Obtainable (r.takeOver source)

theorem Obtainable.of_respecify (h : r.Obtainable) (done : r.respecify action target = .ok s) :
    s.Obtainable :=
  ifDone_eq_ok done ▸ h.respecify action target

theorem Obtainable.of_enlist (h : r.Obtainable) (done : r.enlist key = .ok s) : s.Obtainable :=
  ifDone_eq_ok done ▸ h.enlist key

theorem Obtainable.of_discharge (h : r.Obtainable) (done : r.discharge key = .ok s) :
    s.Obtainable :=
  ifDone_eq_ok done ▸ h.discharge key

/-- **Every roster that operations can make is consistent.** -/
theorem Obtainable.consistent (h : r.Obtainable) : r.Consistent := by
  induction h with
  | new ns name action target => exact consistent_new ns name action target
  | respecify action target _ c => exact c.respecify action target
  | enlist key _ c => exact c.enlist key
  | discharge key _ c => exact c.discharge key
  | takeOver _ _ _ c => exact c

/-- A newcomer has not been claimed yet. -/
theorem Consistent.unclaimed_of_absent (c : r.Consistent) (absent : key ∉ r.qualified) :
    key ∉ r.managed :=
  fun there => absent (c.managed_subset key there)

/-- A pod is only on a roster whose target can be computed. -/
theorem Consistent.wellFormed_of_mem (c : r.Consistent) (h : key ∈ r.qualified) :
    r.target.WellFormed := by
  by_cases wf : r.target.WellFormed
  · exact wf
  · rw [(c.malformed wf).1] at h
    exact absurd h Std.ExtTreeSet.not_mem_empty

end Placement.Roster
