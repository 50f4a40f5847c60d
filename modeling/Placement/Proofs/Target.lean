import Placement.Target

/-!
# How the required number grows

Whether a target can be computed does not depend on how many pods qualify.  Where
it can, one more qualifying pod raises the required number by at most one as long
as the number lies between none and all of the pods, whatever the action.  So pods
that come one by one can always follow it.

## Main definitions

* `TargetSize.Paced` — how two successive required numbers are related.
* `TargetSize.filled` — the required number, brought between none and all.
* `TargetSize.Moderate` — a count, or a percentage of none to all.

The main statements are `filled_succ`, what one more pod does to the filled number, and
`required_succ_of_moderate`, what it does to a moderate target.
-/

namespace Placement.TargetSize

variable {target : TargetSize} {action : Action} {n : Nat} {wanted : Int}

/-! ## When there is a required number -/

/-- A well-formed target asks for some number, whatever the number of pods. -/
theorem exists_required (h : target.WellFormed) (n : Nat) (action : Action) :
    ∃ wanted, target.required n action = .ok wanted := by
  cases target with
  | count c => exact ⟨_, rfl⟩
  | text s =>
    obtain ⟨percent, hp⟩ := Option.isSome_iff_exists.mp h
    simp [required, share, hp, Except.map]

/-- A malformed target is a text, and the failure names it. -/
theorem required_of_not_wellFormed (h : ¬target.WellFormed) :
    ∃ s, target = .text s ∧
      ∀ n action, target.required n action = .error (.invalidTargetSize s) := by
  cases target with
  | count c => exact absurd trivial h
  | text s =>
    have hp : percent? s = none := Option.not_isSome_iff_eq_none.mp h
    exact ⟨s, rfl, fun n action => by simp [required, share, hp, Except.map]⟩

theorem wellFormed_of_required (h : target.required n action = .ok wanted) :
    target.WellFormed := by
  by_cases wf : target.WellFormed
  · exact wf
  · obtain ⟨s, _, fails⟩ := required_of_not_wellFormed wf
    rw [fails] at h
    cases h

/-! ## One pod more -/

/-- Two successive required numbers, for `n` pods and for one more: neither asks for
any pod, both ask for all of them, or the second asks for at most one more. -/
def Paced (n : Nat) (wanted next : Int) : Prop :=
  (wanted ≤ 0 ∧ next ≤ 0) ∨ (n ≤ wanted ∧ n + 1 ≤ next) ∨ (wanted ≤ next ∧ next ≤ wanted + 1)

theorem percent_mul_succ (percent : Int) (n : Nat) :
    percent * (n + 1 : Nat) = percent * n + percent := by
  rw [Int.natCast_add, Int.mul_add, Int.cast_ofNat_Int, Int.mul_one]

/-- Percentages below zero, within bounds and above a hundred are the three cases. -/
theorem paced_percent (percent : Int) (n : Nat) :
    Paced n (percent * n / 100) (percent * (n + 1 : Nat) / 100) := by
  rw [percent_mul_succ]
  have hn : (0 : Int) ≤ n := Int.natCast_nonneg n
  by_cases low : percent < 0
  · have below : percent * n ≤ 0 := Int.mul_nonpos_of_nonpos_of_nonneg (by omega) hn
    exact .inl (by omega)
  by_cases high : 100 < percent
  · have above : 100 * (n : Int) ≤ percent * n := Int.mul_le_mul_of_nonneg_right (by omega) hn
    exact .inr (.inl (by omega))
  · exact .inr (.inr (by omega))

/-- Inverting a target against the number of pods keeps it paced. -/
theorem Paced.invert {wanted next : Int} (h : Paced n wanted next) :
    Paced n (n - wanted) ((n + 1 : Nat) - next) := by
  simp only [Paced] at *
  omega

/-- Required numbers are paced, for every target and action. -/
theorem paced_required {next : Int} (h : target.required n action = .ok wanted)
    (h' : target.required (n + 1) action = .ok next) : Paced n wanted next := by
  obtain ⟨raw, raw', hraw, hraw', paced⟩ : ∃ raw raw', target.share n = .ok raw ∧
      target.share (n + 1) = .ok raw' ∧ Paced n raw raw' := by
    cases target with
    | count c => exact ⟨_, _, rfl, rfl, .inr (.inr (by omega))⟩
    | text s =>
      cases hp : percent? s with
      | none => simp [required, share, hp, Except.map] at h
      | some percent =>
        exact ⟨_, _, by simp [share, hp], by simp [share, hp], paced_percent percent.toInt n⟩
  simp only [required, hraw, hraw', Except.map, Except.ok.injEq] at h h'
  cases action with
  | must =>
    subst h h'
    exact paced
  | mustNot =>
    subst h h'
    exact paced.invert

/-- A required number brought between none and all of `n` pods. -/
def filled (n : Nat) (wanted : Int) : Int :=
  max 0 (min n wanted)

/-- **One more pod fills one more place exactly when the new required number is not
reached yet.** -/
theorem filled_succ {next : Int} (h : Paced n wanted next) :
    filled (n + 1) next =
      if next ≤ filled n wanted then filled n wanted else filled n wanted + 1 := by
  rw [Paced] at h
  by_cases reached : next ≤ filled n wanted
  · rw [if_pos reached]
    simp only [filled] at *
    omega
  · rw [if_neg reached]
    simp only [filled] at *
    omega

/-! ## Moderate targets -/

/-- A count, or a percentage of none to all of the pods. -/
def Moderate : TargetSize → Prop
  | .count _ => True
  | .text s => ∃ percent, percent? s = some percent ∧ 0 ≤ percent.toInt ∧ percent.toInt ≤ 100

theorem Moderate.wellFormed (h : target.Moderate) : target.WellFormed := by
  cases target with
  | count c => trivial
  | text s =>
    obtain ⟨percent, hp, _⟩ := h
    exact Option.isSome_iff_exists.mpr ⟨percent, hp⟩

/-- **A moderate target asks for one more of the pods or for none when one more qualifies**,
whatever the action and however many there are. -/
theorem required_succ_of_moderate {next : Int} (h : target.Moderate)
    (hw : target.required n action = .ok wanted)
    (hn : target.required (n + 1) action = .ok next) : wanted ≤ next ∧ next ≤ wanted + 1 := by
  obtain ⟨raw, raw', hraw, hraw', low, high⟩ : ∃ raw raw', target.share n = .ok raw ∧
      target.share (n + 1) = .ok raw' ∧ raw ≤ raw' ∧ raw' ≤ raw + 1 := by
    cases target with
    | count c => exact ⟨_, _, rfl, rfl, by omega, by omega⟩
    | text s =>
      obtain ⟨percent, hp, low, high⟩ := h
      refine ⟨percent.toInt * n / 100, percent.toInt * (n + 1 : Nat) / 100,
        by simp [share, hp], by simp [share, hp], ?_, ?_⟩
      · rw [percent_mul_succ]
        omega
      · rw [percent_mul_succ]
        omega
  simp only [required, hraw, hraw', Except.map, Except.ok.injEq] at hw hn
  cases action with
  | must =>
    subst hw hn
    exact ⟨low, high⟩
  | mustNot =>
    subst hw hn
    simp only [Int.natCast_add, Int.cast_ofNat_Int]
    omega

end Placement.TargetSize
