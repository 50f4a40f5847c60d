import Placement.Proofs.Roster

/-!
# Pods coming and going

A roster follows its target only as pods come: a newcomer is claimed or not, and whoever is on
the roster keeps its side.  When pods leave, the number of claimed ones drifts away from the
required number, which itself moves with every pod.  What can be said all the same is how far
it drifts: pods that come never make it worse, and at no moment are more pods claimed than have
been required at some moment.

## Main definitions

* `Roster.Change`, `Roster.moments` — pods come and go, and the roster from moment to moment.
* `Roster.Changed` — what one change does to a roster.
* `Roster.Nears` — one roster is no farther from its target than another.
* `Roster.peak` — the highest number required at any of some moments.
* `Roster.unclaimed` — the pods that are governed and not claimed.

The main statements are `enlist_nears` for pods that come, and `churn_bounded` for pods that
come and go.
-/

namespace Placement.Roster

variable {r s t : Roster} {key : String} {action : Action} {target : TargetSize}
  {wanted : Nat → Int}

/-! ## Changes -/

/-- A pod comes or goes. -/
inductive Change where
  | enlist (key : String)
  | discharge (key : String)

/-- Carries out a change in place. -/
def Change.carry (r : Roster) : Change → Except PlacementError Unit × Roster
  | enlist key => InPlace.enlist r key
  | discharge key => InPlace.discharge r key

/-- A roster and what it becomes with each change in place, whether or not it fails. -/
def moments (r : Roster) : List Change → List Roster
  | [] => [r]
  | change :: rest => r :: moments (change.carry r).2 rest

/-- What a change can do to a roster. -/
inductive Changed (r : Roster) : Change → Roster → Prop
  /-- The pod is there already, or is not there, or the change fails. -/
  | same (change : Change) : Changed r change r
  /-- A newcomer is accepted while `wanted` pods are required with it. -/
  | accepted {key : String} {wanted : Int} :
      key ∉ r.qualified → r.required (r.qualified.size + 1) = .ok wanted →
      Changed r (.enlist key) (r.accept key wanted)
  /-- A pod is released while `wanted` pods are required of the rest. -/
  | released {key : String} {wanted : Int} :
      key ∈ r.qualified → r.required (r.qualified.size - 1) = .ok wanted →
      Changed r (.discharge key) (r.release key wanted)

theorem changed_carry (r : Roster) (change : Change) : Changed r change (change.carry r).2 := by
  cases change with
  | enlist key =>
    rw [Change.carry]
    by_cases present : key ∈ r.qualified
    · rw [enlist_inPlace_of_mem present]
      exact .same _
    · rw [enlist_inPlace present]
      cases hw : r.required (r.qualified.size + 1) with
      | error e => exact .same _
      | ok wanted => exact .accepted present hw
  | discharge key =>
    rw [Change.carry]
    by_cases present : key ∈ r.qualified
    · rw [discharge_inPlace present]
      cases hw : r.required (r.qualified.size - 1) with
      | error e => exact .same _
      | ok wanted => exact .released present hw
    · rw [discharge_inPlace_of_not_mem present]
      exact .same _

/-- Under a target that can be computed no change fails. -/
theorem carry_fst (wf : r.target.WellFormed) (change : Change) : (change.carry r).1 = .ok () := by
  cases change with
  | enlist key =>
    rw [Change.carry]
    by_cases present : key ∈ r.qualified
    · rw [enlist_inPlace_of_mem present]
    · obtain ⟨wanted, hw⟩ := TargetSize.exists_required wf (r.qualified.size + 1) r.action
      rw [enlist_inPlace present, required, hw, attempt]
  | discharge key =>
    rw [Change.carry]
    by_cases present : key ∈ r.qualified
    · obtain ⟨wanted, hw⟩ := TargetSize.exists_required wf (r.qualified.size - 1) r.action
      rw [discharge_inPlace present, required, hw, attempt]
    · rw [discharge_inPlace_of_not_mem present]

/-- The first moment is before any change. -/
theorem exists_moments_eq (r : Roster) (changes : List Change) :
    ∃ later, r.moments changes = r :: later := by
  cases changes <;> exact ⟨_, rfl⟩

/-- **What changes keep holds at every moment**, if it holds at first. -/
theorem moments_keep {I : Roster → Prop}
    (kept : ∀ {r s : Roster} {change : Change}, I r → Changed r change s → I s)
    {changes : List Change} (h : I r) : ∀ now ∈ r.moments changes, I now := by
  induction changes generalizing r with
  | nil => simpa [moments] using h
  | cons change rest ih =>
    exact List.forall_mem_cons.mpr ⟨h, ih (kept h (changed_carry r change))⟩

/-- A consistent roster for an action and a target. -/
structure Under (action : Action) (target : TargetSize) (r : Roster) : Prop where
  consistent : r.Consistent
  action_eq : r.action = action
  target_eq : r.target = target

theorem under_new (ns name : String) (action : Action) (target : TargetSize) :
    Under action target (new ns name action target) :=
  ⟨consistent_new ns name action target, rfl, rfl⟩

theorem Under.changed {change : Change} (u : Under action target r)
    (h : Changed r change s) : Under action target s := by
  cases h with
  | same => exact u
  | accepted absent hw => exact ⟨u.consistent.accept absent hw, u.action_eq, u.target_eq⟩
  | released present hw => exact ⟨u.consistent.release present hw, u.action_eq, u.target_eq⟩

theorem Under.required_eq (u : Under action target r) (n : Nat) :
    r.required n = target.required n action := by
  rw [required, u.action_eq, u.target_eq]

/-- Whether the target is met is told by the required number. -/
theorem Under.targetMet_eq (u : Under action target r)
    (hw : ∀ n, target.required n action = .ok (wanted n)) :
    r.targetMet = decide (wanted r.qualified.size ≤ r.managed.size) := by
  have wf : r.target.WellFormed := u.target_eq ▸ TargetSize.wellFormed_of_required (hw 0)
  obtain ⟨now, hnow, met⟩ := u.consistent.met wf
  rw [u.required_eq, hw] at hnow
  rw [met, Except.ok.inj hnow]

/-- The required numbers of a target that can be computed. -/
theorem exists_wanted (wf : target.WellFormed) (action : Action) :
    ∃ wanted : Nat → Int, ∀ n, target.required n action = .ok (wanted n) :=
  Classical.skolem.mp fun n => TargetSize.exists_required wf n action

/-! ## Pods that come -/

/-- How far the number of claimed pods is from the required one. -/
def distance (wanted : Nat → Int) (r : Roster) : Nat :=
  (r.managed.size - wanted r.qualified.size).natAbs

/-- A roster is no farther from its target than another one, and meets it if that one does. -/
structure Nears (wanted : Nat → Int) (r s : Roster) : Prop where
  distance_le : s.distance wanted ≤ r.distance wanted
  met : r.targetMet = true → s.targetMet = true

theorem Nears.refl (wanted : Nat → Int) (r : Roster) : Nears wanted r r :=
  ⟨Nat.le_refl _, id⟩

theorem Nears.trans (h : Nears wanted r s) (h' : Nears wanted s t) : Nears wanted r t :=
  ⟨Nat.le_trans h'.distance_le h.distance_le, h'.met ∘ h.met⟩

/-- **A newcomer brings a roster no farther from a moderate target.** -/
theorem Under.nears (u : Under action target r) (moderate : target.Moderate)
    (hw : ∀ n, target.required n action = .ok (wanted n))
    (h : Changed r (.enlist key) s) : Nears wanted r s := by
  have met := u.targetMet_eq hw
  have met' := (u.changed h).targetMet_eq hw
  cases h with
  | same => exact .refl wanted r
  | @accepted _ next absent hnext =>
    rw [u.required_eq, hw] at hnext
    obtain rfl := Except.ok.inj hnext
    have size : (r.accept key (wanted (r.qualified.size + 1))).qualified.size =
        r.qualified.size + 1 :=
      size_qualified_accept absent
    have claimed : (r.accept key (wanted (r.qualified.size + 1))).managed.size = _ :=
      size_managed_accept_eq (u.consistent.unclaimed_of_absent absent)
    obtain ⟨grows, by_one⟩ := TargetSize.required_succ_of_moderate moderate
      (hw r.qualified.size) (hw (r.qualified.size + 1))
    rw [size] at met'
    -- If the number is reached already, the newcomer can only have taken up a surplus.  If it
    -- is not, the newcomer is claimed, which makes up for it.
    refine ⟨?_, ?_⟩
    · rw [distance, distance, size, claimed]
      split <;> omega
    · rw [met, met', claimed, decide_eq_true_eq, decide_eq_true_eq]
      split <;> omega

/-- **The more pods come, the nearer a roster is to a moderate target.** -/
theorem moments_near (u : Under action target r) (moderate : target.Moderate)
    (hw : ∀ n, target.required n action = .ok (wanted n)) (keys : List String) :
    (r.moments (keys.map .enlist)).Pairwise (Nears wanted) := by
  induction keys generalizing r with
  | nil => exact List.pairwise_singleton ..
  | cons key rest ih =>
    have changed := changed_carry r (.enlist key)
    have near := u.nears moderate hw changed
    have later := ih (u.changed changed)
    refine List.pairwise_cons.mpr ⟨fun s there => ?_, later⟩
    obtain ⟨rest', hrest⟩ := exists_moments_eq (Change.carry r (.enlist key)).2
      (rest.map .enlist)
    rw [hrest] at later there
    rcases List.mem_cons.mp there with rfl | there
    · exact near
    · exact near.trans (List.rel_of_pairwise_cons later there)

/-- **Pods that come bring a roster ever nearer to a moderate target.**  None of them fails to
join.  However many pods too many or too few are claimed at first, they are no more at any
later moment than at an earlier one, and once the target is met it stays met. -/
theorem enlist_nears (c : r.Consistent) (moderate : r.target.Moderate) (keys : List String) :
    ∃ wanted : Nat → Int,
      (∀ now ∈ r.moments (keys.map .enlist), (∀ n, now.required n = .ok (wanted n)) ∧
        ∀ key, (InPlace.enlist now key).1 = .ok ()) ∧
      (r.moments (keys.map .enlist)).Pairwise (Nears wanted) := by
  obtain ⟨wanted, hw⟩ := exists_wanted moderate.wellFormed r.action
  have u : Under r.action r.target r := ⟨c, rfl, rfl⟩
  refine ⟨wanted, fun now there => ?_, moments_near u moderate hw keys⟩
  have under := moments_keep Under.changed u now there
  have wf : now.target.WellFormed := under.target_eq ▸ moderate.wellFormed
  refine ⟨fun n => ?_, fun key => carry_fst wf (.enlist key)⟩
  rw [under.required_eq, hw]

/-- Two pods were claimed for a count of two, before half of the pods became the target. -/
def halved : Roster :=
  let both := (InPlace.enlist (InPlace.enlist (new "shop" "web" .must (.count 2)) "u").2 "v").2
  (InPlace.respecify both .must (.text "50%")).2

theorem halved_obtainable : halved.Obtainable :=
  (((Obtainable.new "shop" "web" .must (.count 2)).enlist "u").enlist "v").respecify .must
    (.text "50%")

/-- One pod too many is claimed there, and there is never more than that one. -/
theorem halved_nears :
    halved.targetMet = true ∧ ∃ wanted, halved.required 2 = .ok (wanted 2) ∧
      halved.distance wanted = 1 ∧
      ∀ now ∈ halved.moments (["w", "x", "y"].map .enlist),
        now.distance wanted ≤ 1 ∧ now.targetMet = true := by
  have moderate : halved.target.Moderate := ⟨50, by decide +kernel⟩
  obtain ⟨wanted, hw, near⟩ := enlist_nears halved_obtainable.consistent moderate ["w", "x", "y"]
  have met : halved.targetMet = true := by decide +kernel
  have two : halved.required 2 = .ok (wanted 2) := (hw halved List.mem_cons_self).1 2
  have one : halved.required 2 = .ok 1 := rfl
  have half : wanted 2 = 1 := Except.ok.inj (two.symm.trans one)
  have claimed : halved.managed.size = 2 := by decide +kernel
  have governed : halved.qualified.size = 2 := by decide +kernel
  have surplus : halved.distance wanted = 1 := by
    rw [distance, claimed, governed, half]
    rfl
  refine ⟨met, wanted, two, surplus, fun now there => ?_⟩
  rcases List.mem_cons.mp there with rfl | later
  · exact ⟨Nat.le_of_eq surplus, met⟩
  · have nears := List.rel_of_pairwise_cons near later
    exact ⟨surplus ▸ nears.distance_le, nears.met met⟩

/-! ## Pods that come and go -/

/-- The highest of a number and of those required at some moments. -/
def peak (wanted : Nat → Int) (floor : Int) (moments : List Roster) : Int :=
  (moments.map fun r => wanted r.qualified.size).foldl max floor

theorem peak_cons (wanted : Nat → Int) (floor : Int) (r : Roster) (later : List Roster) :
    peak wanted floor (r :: later) = peak wanted (max floor (wanted r.qualified.size)) later :=
  rfl

/-- A number that is never required, and is no less than the first, is never passed. -/
theorem peak_le {floor bound : Int} {moments : List Roster} (low : floor ≤ bound)
    (h : ∀ r ∈ moments, wanted r.qualified.size ≤ bound) : peak wanted floor moments ≤ bound := by
  induction moments generalizing floor with
  | nil => exact low
  | cons r later ih =>
    obtain ⟨here, later⟩ := List.forall_mem_cons.mp h
    rw [peak_cons]
    exact ih (Int.max_le.mpr ⟨low, here⟩) later

/-- **A change claims no pod beyond the number that is required after it.** -/
theorem Under.size_managed_le {change : Change} (u : Under action target r)
    (hw : ∀ n, target.required n action = .ok (wanted n)) (h : Changed r change s) :
    (s.managed.size : Int) ≤ max (r.managed.size : Int) (wanted s.qualified.size) := by
  cases h with
  | same => exact Int.le_max_left ..
  | @accepted _ next absent hnext =>
    rw [u.required_eq, hw] at hnext
    obtain rfl := Except.ok.inj hnext
    rw [size_qualified_accept absent,
      size_managed_accept_eq (u.consistent.unclaimed_of_absent absent)]
    split <;> omega
  | @released key =>
    have fewer : (r.managed.erase key).size ≤ r.managed.size := Std.ExtTreeSet.size_erase_le
    exact Int.le_trans (Int.ofNat_le.mpr fewer) (Int.le_max_left ..)

/-- **No more pods are claimed at any moment than the highest number required so far.** -/
theorem Under.size_managed_le_peak {floor : Int} {changes : List Change}
    (u : Under action target r) (hw : ∀ n, target.required n action = .ok (wanted n))
    (low : (r.managed.size : Int) ≤ max floor (wanted r.qualified.size))
    {earlier later : List Roster} {now : Roster}
    (h : r.moments changes = earlier ++ now :: later) :
    (now.managed.size : Int) ≤ peak wanted floor (earlier ++ [now]) := by
  induction changes generalizing r floor earlier with
  | nil =>
    cases earlier with
    | nil =>
      obtain rfl := (List.cons.inj h).1
      exact low
    | cons first earlier => simp [moments] at h
  | cons change rest ih =>
    cases earlier with
    | nil =>
      obtain rfl := (List.cons.inj h).1
      exact low
    | cons first earlier =>
      obtain ⟨rfl, rest_eq⟩ := List.cons.inj h
      -- What was required so far goes into the floor, which may then be above what is now.
      have changed := changed_carry r change
      have step := u.size_managed_le hw changed
      have low' : ((change.carry r).2.managed.size : Int) ≤
          max (max floor (wanted r.qualified.size)) (wanted (change.carry r).2.qualified.size) := by
        omega
      exact ih (u.changed changed) low' rest_eq

/-- The pods that are governed and not claimed. -/
def unclaimed (r : Roster) : Std.ExtTreeSet String :=
  r.qualified \ r.managed

theorem Consistent.size_unclaimed (c : r.Consistent) :
    r.unclaimed.size + r.managed.size = r.qualified.size := by
  have claimed : (r.qualified ∩ r.managed).size = r.managed.size :=
    Std.ExtTreeSet.size_inter_eq_size_right c.managed_subset
  rw [unclaimed, ← claimed]
  exact Std.ExtTreeSet.size_diff_add_size_inter_eq_size_left

/-- The required number of a count of pods that are kept off the nodes. -/
theorem required_mustNot_count (count : Int32) (n : Nat) :
    TargetSize.required (.count count) n .mustNot = .ok (n - count.toInt) :=
  rfl

/-- **A change leaves no more pods unclaimed than are to be kept off the nodes.** -/
theorem Under.unclaimed_changed {change : Change} {count : Int32}
    (u : Under .mustNot (.count count) r) (few : (r.unclaimed.size : Int) ≤ count.toInt)
    (h : Changed r change s) : (s.unclaimed.size : Int) ≤ count.toInt := by
  have before := u.consistent.size_unclaimed
  have after := (u.changed h).consistent.size_unclaimed
  cases h with
  | same => exact few
  | @accepted key wanted absent hw =>
    rw [u.required_eq, required_mustNot_count] at hw
    obtain rfl := Except.ok.inj hw
    rw [size_qualified_accept absent,
      size_managed_accept_eq (u.consistent.unclaimed_of_absent absent)] at after
    split at after <;> omega
  | @released key wanted present =>
    have gone : (r.release key wanted).qualified.size + 1 = r.qualified.size :=
      size_qualified_release present
    have remain : r.managed.size ≤ (r.release key wanted).managed.size + 1 :=
      Std.ExtTreeSet.size_le_size_erase
    omega

/-- A new roster for a count of pods that are kept off the nodes claims every newcomer it has
to, so that the target is met at every moment. -/
theorem moments_unclaimed {count : Int32} (nonneg : 0 ≤ count.toInt) (ns name : String)
    (changes : List Change) :
    ∀ now ∈ (new ns name .mustNot (.count count)).moments changes,
      (now.unclaimed.size : Int) ≤ count.toInt ∧ now.targetMet = true := by
  have u := under_new ns name .mustNot (.count count)
  have nobody : (new ns name .mustNot (.count count)).unclaimed.size + 0 = 0 :=
    u.consistent.size_unclaimed
  intro now there
  obtain ⟨u, few⟩ := moments_keep
    (I := fun r => Under .mustNot (.count count) r ∧ (r.unclaimed.size : Int) ≤ count.toInt)
    (fun ⟨u, few⟩ changed => ⟨u.changed changed, u.unclaimed_changed few changed⟩)
    ⟨u, by omega⟩ now there
  refine ⟨few, ?_⟩
  have parts := u.consistent.size_unclaimed
  rw [u.targetMet_eq (required_mustNot_count count), decide_eq_true_eq]
  omega

/-- **However pods come and go, no more of them are claimed than have been required.**  On a new
roster no change fails, and at every moment the number of claimed pods is at most the highest
number required so far, or zero.  For a count of pods on the nodes this is the count itself.
For a count of pods off the nodes, no more than that many are ever left unclaimed, and the
target is met at every moment. -/
theorem churn_bounded (wf : target.WellFormed) (ns name : String) (action : Action)
    (changes : List Change) :
    ∃ wanted : Nat → Int, (∀ n, target.required n action = .ok (wanted n)) ∧
      ∀ earlier now later,
        (new ns name action target).moments changes = earlier ++ now :: later →
        (∀ change : Change, (change.carry now).1 = .ok ()) ∧
        (now.managed.size : Int) ≤ peak wanted 0 (earlier ++ [now]) ∧
        (∀ count : Int32, target = .count count → action = .must →
          (now.managed.size : Int) ≤ max count.toInt 0) ∧
        (∀ count : Int32, target = .count count → action = .mustNot → 0 ≤ count.toInt →
          (now.unclaimed.size : Int) ≤ count.toInt ∧ now.targetMet = true) := by
  obtain ⟨wanted, hw⟩ := exists_wanted wf action
  refine ⟨wanted, hw, fun earlier now later split => ?_⟩
  have u := under_new ns name action target
  have there : now ∈ (new ns name action target).moments changes := by simp [split]
  have under := moments_keep Under.changed u now there
  have bound : (now.managed.size : Int) ≤ peak wanted 0 (earlier ++ [now]) :=
    u.size_managed_le_peak hw (Int.le_max_left ..) split
  refine ⟨fun change => carry_fst (under.target_eq ▸ wf) change, bound, ?_, ?_⟩
  · rintro count rfl rfl
    have constant (n : Nat) : wanted n = count.toInt := (Except.ok.inj (hw n)).symm
    refine Int.le_trans bound (peak_le (Int.le_max_right ..) fun r _ => ?_)
    rw [constant]
    exact Int.le_max_left ..
  · rintro count rfl rfl nonneg
    exact moments_unclaimed nonneg ns name changes now there

/-- One pod is to be kept off the nodes, and it is never more than one, also when that pod goes
and another comes. -/
theorem keepOff_bounded :
    TargetSize.WellFormed (.count 1) ∧
      ∀ now ∈ (new "shop" "batch" .mustNot (.count 1)).moments
        [.enlist "u", .enlist "v", .discharge "u", .enlist "w"],
        now.unclaimed.size ≤ (1 : Int) ∧ now.targetMet = true := by
  have wf : TargetSize.WellFormed (.count 1) := trivial
  obtain ⟨_, _, bounded⟩ := churn_bounded wf "shop" "batch" .mustNot
    [.enlist "u", .enlist "v", .discharge "u", .enlist "w"]
  refine ⟨wf, fun now there => ?_⟩
  obtain ⟨earlier, later, split⟩ := List.append_of_mem there
  exact (bounded earlier now later split).2.2.2 1 rfl rfl (by decide)

end Placement.Roster
