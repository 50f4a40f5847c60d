import Mathlib.Order.BooleanAlgebra.Set
import Placement.Membership
import Placement.Proofs.Roster

/-!
# What membership does to the registry

Asking for the roster of a policy, joining and leaving are the only ways in which the
registry changes.  Each is given in closed form, and each is described by what it does
to the memberships, the triples of namespace, policy name and pod that are on record.

## Main definitions

* `Registry.memberships` — who is on which roster.
* `Registry.claims` — who of them is claimed for the selected nodes.
* `Registry.Gains` — one membership more, or the same ones.
* `Registry.Sound` — every entry is obtainable and filed under its own name.
* `Membership.onRecord` — the roster under a name, empty where there is none.
* `Membership.stored`, `Membership.admission` — the roster of a policy, and the one
  with which a pod comes under it.

The main statements are `rosterOf_eq`, `join_eq` and `leave_eq_ok` on the operations,
`memberships_rosterOf`, `memberships_join` and `memberships_leave` on the memberships,
and `sound_rosterOf`, `sound_join` and `sound_leave` on soundness.
-/

namespace Placement

variable {registry after : Registry} {ns name key : String} {roster joined : Roster}
  {policy : Policy} {pod : Pod}

namespace Registry

/-- The triples of a namespace, a policy name and the key of a pod on that roster. -/
def memberships (registry : Registry) : Set (String × String × String) :=
  {t | ∃ roster, registry.get? t.1 t.2.1 = some roster ∧ t.2.2 ∈ roster.qualified}

theorem mem_memberships :
    (ns, name, key) ∈ registry.memberships ↔
      ∃ roster, registry.get? ns name = some roster ∧ key ∈ roster.qualified :=
  Iff.rfl

instance (t : String × String × String) : Decidable (t ∈ registry.memberships) :=
  decidable_of_iff ((registry.get? t.1 t.2.1).any (·.qualifies t.2.2) = true) <| by
    rw [memberships, Set.mem_ofPred_eq]
    cases registry.get? t.1 t.2.1 with
    | none => simp
    | some roster => simp [Roster.qualifies_iff]

@[simp] theorem memberships_empty : (∅ : Registry).memberships = ∅ := by
  ext ⟨ns, name, key⟩
  simp [mem_memberships]

/-- After an insertion the inserted roster tells who is under its name. -/
theorem mem_memberships_insert {ns' name' : String} :
    (ns', name', key) ∈ Registry.memberships (registry.insert ns name roster) ↔
      if ns = ns' ∧ name = name' then key ∈ roster.qualified
      else (ns', name', key) ∈ registry.memberships := by
  simp only [mem_memberships, Namespaced.get?_insert]
  split <;> simp

/-- After a removal nobody is under the removed name. -/
theorem mem_memberships_erase {ns' name' : String} :
    (ns', name', key) ∈ Registry.memberships (registry.erase ns name) ↔
      ¬(ns = ns' ∧ name = name') ∧ (ns', name', key) ∈ registry.memberships := by
  simp only [mem_memberships, Namespaced.get?_erase]
  split
  next same => simp [same]
  next other => simp [other]

/-- Whether the entry under a namespace and name claims a pod for the selected nodes. -/
def claims (registry : Registry) (ns name key : String) : Bool :=
  (registry.get? ns name).any (·.manages key)

/-- After an insertion the inserted roster tells whom it claims. -/
theorem claims_insert {ns' name' : String} :
    Registry.claims (registry.insert ns name roster) ns' name' key =
      if ns = ns' ∧ name = name' then roster.manages key else registry.claims ns' name' key := by
  simp only [claims, Namespaced.get?_insert]
  split <;> rfl

/-- After a removal the other entries claim whom they did. -/
theorem claims_erase_of_ne {ns' name' : String} (other : ¬(ns = ns' ∧ name = name')) :
    Registry.claims (registry.erase ns name) ns' name' key = registry.claims ns' name' key := by
  rw [claims, Namespaced.get?_erase, if_neg other, claims]

/-- Exactly the given membership is put on record, and none if none is given. -/
def Gains (registry after : Registry) : Option (String × String × String) → Prop
  | none => after.memberships = registry.memberships
  | some t => after.memberships = insert t registry.memberships

theorem Gains.subset {t? : Option (String × String × String)} (h : registry.Gains after t?) :
    registry.memberships ⊆ after.memberships := by
  cases t? with
  | none => exact h.symm.subset
  | some t => exact h ▸ Set.subset_insert t registry.memberships

/-- Every entry can be made by operations on rosters and stands under its own name. -/
structure Sound (registry : Registry) : Prop where
  obtainable : ∀ ns name roster, registry.get? ns name = some roster → roster.Obtainable
  named : ∀ ns name roster,
    registry.get? ns name = some roster → roster.ns = ns ∧ roster.name = name

theorem Sound.empty : Sound (∅ : Registry) where
  obtainable ns name roster h := by simp at h
  named ns name roster h := by simp at h

theorem Sound.insert (sound : registry.Sound) (obtainable : roster.Obtainable)
    (named : roster.ns = ns ∧ roster.name = name) :
    Sound (Namespaced.insert registry ns name roster) where
  obtainable ns' name' found h := by
    rw [Namespaced.get?_insert] at h
    split at h
    next => exact Option.some.inj h ▸ obtainable
    next => exact sound.obtainable ns' name' found h
  named ns' name' found h := by
    rw [Namespaced.get?_insert] at h
    split at h
    next same => exact Option.some.inj h ▸ ⟨named.1.trans same.1, named.2.trans same.2⟩
    next => exact sound.named ns' name' found h

theorem Sound.erase (sound : registry.Sound) (ns name : String) :
    Sound (Namespaced.erase registry ns name) where
  obtainable ns' name' found h := by
    rw [Namespaced.get?_erase] at h
    split at h
    next => cases h
    next => exact sound.obtainable ns' name' found h
  named ns' name' found h := by
    rw [Namespaced.get?_erase] at h
    split at h
    next => cases h
    next => exact sound.named ns' name' found h

/-- A change works on the entry, or else on the seed; a result without pods goes. -/
theorem modify_eq {seed : Option Roster} {change : Roster → Except PlacementError Roster}
    {before : Roster} (h : (registry.get? ns name).or seed = some before) :
    registry.modify ns name seed change =
      (change before).map fun changed =>
        (some changed, if changed.isEmpty then Namespaced.erase registry ns name
          else Namespaced.insert registry ns name changed) := by
  rw [modify, h]
  dsimp only
  cases change before with
  | error e => rfl
  | ok changed =>
    simp only [Except.map, store_eq, remove]
    split <;> rfl

end Registry

namespace Membership

/-! ## The roster on record -/

/-- The roster on record under a namespace and name, or else an empty one with the given
action and target. -/
def onRecord (registry : Registry) (ns name : String) (action : Action) (target : TargetSize) :
    Roster :=
  (registry.get? ns name).getD (Roster.new ns name action target)

/-- The pods on the roster are those of the memberships. -/
theorem mem_onRecord {action : Action} {target : TargetSize} :
    key ∈ (onRecord registry ns name action target).qualified ↔
      (ns, name, key) ∈ registry.memberships := by
  rw [onRecord, Registry.mem_memberships]
  cases registry.get? ns name with
  | none => simp [Roster.new]
  | some roster => simp

/-- The pods that the roster claims are those that the registry says. -/
theorem manages_onRecord {action : Action} {target : TargetSize} :
    (onRecord registry ns name action target).manages key = registry.claims ns name key := by
  rw [onRecord, Registry.claims]
  cases registry.get? ns name with
  | none => simp [Roster.new, Roster.manages]
  | some roster => rfl

theorem obtainable_onRecord (sound : registry.Sound) (ns name : String) (action : Action)
    (target : TargetSize) : (onRecord registry ns name action target).Obtainable := by
  rw [onRecord]
  cases h : registry.get? ns name with
  | none => exact .new ..
  | some roster => exact sound.obtainable _ _ _ h

theorem named_onRecord (sound : registry.Sound) (ns name : String) (action : Action)
    (target : TargetSize) :
    (onRecord registry ns name action target).ns = ns ∧
      (onRecord registry ns name action target).name = name := by
  rw [onRecord]
  cases h : registry.get? ns name with
  | none => exact ⟨rfl, rfl⟩
  | some roster => exact sound.named _ _ _ h

/-- Putting a pod on the roster on record puts exactly that pod on record. -/
theorem memberships_insert_enlist {action : Action} {target : TargetSize} {base : Roster}
    (h : base.enlist key = .ok joined)
    (same : base.qualified = (onRecord registry ns name action target).qualified) :
    Registry.memberships (Namespaced.insert registry ns name joined) =
      insert (ns, name, key) registry.memberships := by
  have qualified := (Roster.enlist_frame h).2.2.2.2
  ext ⟨ns', name', k⟩
  rw [Registry.mem_memberships_insert, Set.mem_insert_iff]
  split
  next here =>
    obtain ⟨rfl, rfl⟩ := here
    rw [qualified, same, mem_onRecord]
    simp
  next elsewhere =>
    have other : ¬(ns', name', k) = (ns, name, key) := by
      rintro ⟨rfl, rfl, rfl⟩
      exact elsewhere ⟨rfl, rfl⟩
    simp only [other, false_or]

/-! ## Asking for a roster -/

/-- The roster of a policy: the one on record, or else an empty one. -/
def stored (registry : Registry) (policy : Policy) : Roster :=
  onRecord registry policy.ns policy.name policy.action policy.target

theorem mem_stored : key ∈ (stored registry policy).qualified ↔
    (policy.ns, policy.name, key) ∈ registry.memberships :=
  mem_onRecord

theorem obtainable_stored (sound : registry.Sound) (policy : Policy) :
    (stored registry policy).Obtainable :=
  obtainable_onRecord sound _ _ _ _

/-- Asking for a roster enters it as it was, and gives it under the policy's body. -/
theorem rosterOf_eq (registry : Registry) (policy : Policy) :
    rosterOf registry policy =
      ((stored registry policy).respecify policy.action policy.target,
        Namespaced.insert registry policy.ns policy.name (stored registry policy)) := by
  simp only [rosterOf, Registry.obtain, stored, onRecord]
  cases h : registry.get? policy.ns policy.name with
  | none => rfl
  | some roster => simp only [Option.getD_some, Namespaced.insert_of_get? h]

theorem get?_stored (registry : Registry) (policy : Policy) :
    (rosterOf registry policy).2.get? policy.ns policy.name = some (stored registry policy) := by
  simp [rosterOf_eq, Namespaced.get?_insert]

theorem stored_insert (registry : Registry) (policy : Policy) (roster : Roster) :
    stored (Namespaced.insert registry policy.ns policy.name roster) policy = roster := by
  simp [stored, onRecord, Namespaced.get?_insert]

theorem stored_rosterOf (registry : Registry) (policy : Policy) :
    stored (rosterOf registry policy).2 policy = stored registry policy := by
  rw [stored, onRecord, get?_stored, Option.getD_some]

/-- Asking twice is asking once. -/
theorem rosterOf_rosterOf (registry : Registry) (policy : Policy) :
    rosterOf (rosterOf registry policy).2 policy = rosterOf registry policy := by
  rw [rosterOf_eq (rosterOf registry policy).2, stored_rosterOf, rosterOf_eq,
    Namespaced.insert_insert]

/-- Asking for a roster puts nobody on it. -/
@[simp] theorem memberships_rosterOf (registry : Registry) (policy : Policy) :
    (rosterOf registry policy).2.memberships = registry.memberships := by
  ext ⟨ns, name, key⟩
  rw [rosterOf_eq, Registry.mem_memberships_insert]
  split
  next same =>
    obtain ⟨rfl, rfl⟩ := same
    exact mem_stored
  next => rfl

theorem sound_rosterOf (sound : registry.Sound) (policy : Policy) :
    (rosterOf registry policy).2.Sound := by
  rw [rosterOf_eq]
  exact sound.insert (obtainable_stored sound policy) (named_onRecord sound _ _ _ _)

/-- The roster that is given has the policy's body, and the pods on record. -/
theorem rosterOf_eq_ok (h : (rosterOf registry policy).1 = .ok roster) :
    ∃ wanted, policy.target.required (stored registry policy).qualified.size policy.action =
        .ok wanted ∧
      roster = (stored registry policy).respecified policy.action policy.target wanted := by
  rw [rosterOf_eq] at h
  exact Roster.respecify_eq_ok h

/-- A roster is given exactly when the policy's target can be computed. -/
theorem exists_rosterOf_iff :
    (∃ roster, (rosterOf registry policy).1 = .ok roster) ↔
      policy.target.WellFormed := by
  constructor
  · rintro ⟨roster, h⟩
    obtain ⟨wanted, hw, _⟩ := rosterOf_eq_ok h
    exact TargetSize.wellFormed_of_required hw
  · intro wf
    rw [rosterOf_eq]
    exact Roster.exists_respecify wf _ _

theorem not_wellFormed_of_rosterOf {e : PlacementError}
    (h : (rosterOf registry policy).1 = .error e) : ¬policy.target.WellFormed := by
  intro wf
  obtain ⟨roster, given⟩ := exists_rosterOf_iff.mpr wf
  rw [h] at given
  cases given

/-! ## Joining -/

theorem key_of_uid (h : pod.uid ≠ "") : pod.key = .ok pod.uid := by
  simp [Pod.key, h]

theorem key_of_no_uid (h : pod.uid = "") : pod.key = .error (.emptyUid pod.ns pod.name) := by
  simp [Pod.key, h]

/-- The roster on which a pod would be put: the one on record, or else an empty one with
the body of the given one. -/
def toJoin (registry : Registry) (roster : Roster) : Roster :=
  onRecord registry roster.ns roster.name roster.action roster.target

/-- A pod that joins is put on the roster on record, under the given body. -/
theorem join_eq (h : pod.uid ≠ "") (registry : Registry) (roster : Roster) :
    join registry pod roster =
      (((toJoin registry roster).respecify roster.action roster.target).bind
        (·.enlist pod.uid)).map fun joined =>
          (joined, Namespaced.insert registry roster.ns roster.name joined) := by
  -- The seed is always there, so the change has a roster to work on.
  have base : (registry.get? roster.ns roster.name).or
      (some (Roster.new roster.ns roster.name roster.action roster.target)) =
        some (toJoin registry roster) := by
    rw [toJoin, onRecord]
    cases registry.get? roster.ns roster.name <;> rfl
  simp only [join, key_of_uid h, Registry.modify_eq base]
  cases hb : (toJoin registry roster).respecify roster.action roster.target with
  | error e => rfl
  | ok base =>
    cases hj : base.enlist pod.uid with
    | error e => simp [Except.bind, Except.map, hj]
    | ok joined =>
      have there : pod.uid ∈ joined.qualified :=
        ((Roster.enlist_frame hj).2.2.2.2 pod.uid).mpr (.inl rfl)
      simp [Except.bind, Except.map, hj, Roster.isEmpty_of_mem there]

theorem join_of_no_uid (h : pod.uid = "") (registry : Registry) (roster : Roster) :
    join registry pod roster = .error (.emptyUid pod.ns pod.name) := by
  simp [join, key_of_no_uid h]

theorem join_eq_ok (h : join registry pod roster = .ok (joined, after)) :
    pod.uid ≠ "" ∧
      ∃ base, (toJoin registry roster).respecify roster.action roster.target = .ok base ∧
        base.enlist pod.uid = .ok joined ∧
        after = Namespaced.insert registry roster.ns roster.name joined := by
  by_cases hu : pod.uid = ""
  · rw [join_of_no_uid hu] at h
    cases h
  rw [join_eq hu] at h
  cases hb : (toJoin registry roster).respecify roster.action roster.target with
  | error e => simp [hb, Except.bind, Except.map] at h
  | ok base =>
    cases hj : base.enlist pod.uid with
    | error e => simp [hb, hj, Except.bind, Except.map] at h
    | ok joined' =>
      simp only [hb, hj, Except.bind, Except.map, Except.ok.injEq, Prod.mk.injEq] at h
      obtain ⟨rfl, rfl⟩ := h
      exact ⟨hu, base, rfl, hj, rfl⟩

/-- A pod with an identifier can join under every target that can be computed. -/
theorem exists_join (hu : pod.uid ≠ "") (wf : roster.target.WellFormed) (registry : Registry) :
    ∃ joined after, join registry pod roster = .ok (joined, after) := by
  obtain ⟨base, hb⟩ := Roster.exists_respecify wf (toJoin registry roster) roster.action
  have target : base.target = roster.target := by
    obtain ⟨wanted, _, rfl⟩ := Roster.respecify_eq_ok hb
    rfl
  obtain ⟨joined, hj⟩ := Roster.exists_enlist (target ▸ wf) pod.uid
  refine ⟨joined, Namespaced.insert registry roster.ns roster.name joined, ?_⟩
  simp [join_eq hu, hb, Except.bind, Except.map, hj]

/-- **Joining puts exactly the pod on record, under the name the given roster carries.** -/
theorem memberships_join (h : join registry pod roster = .ok (joined, after)) :
    after.memberships = insert (roster.ns, roster.name, pod.uid) registry.memberships := by
  obtain ⟨_, base, hb, hj, rfl⟩ := join_eq_ok h
  obtain ⟨wanted, _, rfl⟩ := Roster.respecify_eq_ok hb
  exact memberships_insert_enlist hj rfl

theorem sound_join (sound : registry.Sound) (h : join registry pod roster = .ok (joined, after)) :
    after.Sound := by
  obtain ⟨_, base, hb, hj, rfl⟩ := join_eq_ok h
  obtain ⟨frameNs, frameName, _⟩ := Roster.enlist_frame hj
  have obtainable : (toJoin registry roster).Obtainable := obtainable_onRecord sound _ _ _ _
  have named : (toJoin registry roster).ns = roster.ns ∧
      (toJoin registry roster).name = roster.name := named_onRecord sound _ _ _ _
  refine sound.insert ((obtainable.of_respecify hb).of_enlist hj) ?_
  obtain ⟨wanted, _, rfl⟩ := Roster.respecify_eq_ok hb
  exact ⟨frameNs.trans named.1, frameName.trans named.2⟩

/-! ## Coming under a policy -/

/-- The roster with which a pod comes under a policy: the one of the policy, under the
policy's body, after the pod has joined. -/
def admission (registry : Registry) (policy : Policy) (key : String) :
    Except PlacementError Roster :=
  ((stored registry policy).respecify policy.action policy.target).bind (·.enlist key)

/-- **Asking for the roster of a policy and then joining it is one admission**, which
leaves nothing of the first step behind. -/
theorem join_rosterOf (sound : registry.Sound) (hu : pod.uid ≠ "")
    (h : (rosterOf registry policy).1 = .ok roster) :
    join (rosterOf registry policy).2 pod roster =
      (admission registry policy pod.uid).map fun joined =>
        (joined, Namespaced.insert registry policy.ns policy.name joined) := by
  obtain ⟨wanted, _, rfl⟩ := rosterOf_eq_ok h
  obtain ⟨named, named'⟩ : (stored registry policy).ns = policy.ns ∧
      (stored registry policy).name = policy.name := named_onRecord sound _ _ _ _
  have base : toJoin (rosterOf registry policy).2
      ((stored registry policy).respecified policy.action policy.target wanted) =
        stored registry policy := by
    simp only [toJoin, onRecord, Roster.respecified, named, named', get?_stored,
      Option.getD_some]
  have once (joined : Roster) :
      Namespaced.insert (rosterOf registry policy).2 policy.ns policy.name joined =
        Namespaced.insert registry policy.ns policy.name joined := by
    rw [rosterOf_eq, Namespaced.insert_insert]
  rw [join_eq hu, base]
  simp only [Roster.respecified, named, named', once]
  rfl

theorem exists_admission (wf : policy.target.WellFormed) (registry : Registry) (key : String) :
    ∃ joined, admission registry policy key = .ok joined := by
  obtain ⟨base, hb⟩ := Roster.exists_respecify wf (stored registry policy) policy.action
  have target : base.target = policy.target := by
    obtain ⟨wanted, _, rfl⟩ := Roster.respecify_eq_ok hb
    rfl
  obtain ⟨joined, hj⟩ := Roster.exists_enlist (target ▸ wf) key
  exact ⟨joined, by simp [admission, hb, Except.bind, hj]⟩

/-- An admission takes on the policy's body, and then the pod joins. -/
theorem admission_eq_ok (h : admission registry policy key = .ok joined) :
    ∃ now, policy.target.required (stored registry policy).qualified.size policy.action =
        .ok now ∧
      ((stored registry policy).respecified policy.action policy.target now).enlist key =
        .ok joined := by
  rw [admission] at h
  cases hb : (stored registry policy).respecify policy.action policy.target with
  | error e => simp [hb, Except.bind] at h
  | ok base =>
    obtain ⟨now, hnow, rfl⟩ := Roster.respecify_eq_ok hb
    rw [hb] at h
    exact ⟨now, hnow, h⟩

theorem wellFormed_of_admission (h : admission registry policy key = .ok joined) :
    policy.target.WellFormed := by
  obtain ⟨now, hnow, _⟩ := admission_eq_ok h
  exact TargetSize.wellFormed_of_required hnow

/-- An admission takes on what the policy says, and puts exactly the pod on the roster. -/
theorem admission_frame (h : admission registry policy key = .ok joined) :
    joined.action = policy.action ∧ joined.target = policy.target ∧
      ∀ k, k ∈ joined.qualified ↔ k = key ∨ (policy.ns, policy.name, k) ∈ registry.memberships := by
  obtain ⟨now, _, joins⟩ := admission_eq_ok h
  obtain ⟨_, _, action, target, qualified⟩ := Roster.enlist_frame joins
  exact ⟨action, target, fun k => (qualified k).trans (or_congr_right mem_stored)⟩

theorem obtainable_admission (sound : registry.Sound)
    (h : admission registry policy key = .ok joined) : joined.Obtainable := by
  obtain ⟨now, hnow, joins⟩ := admission_eq_ok h
  have respecifies : (stored registry policy).respecify policy.action policy.target =
      .ok ((stored registry policy).respecified policy.action policy.target now) := by
    rw [Roster.respecify_eq, hnow]
    rfl
  exact ((obtainable_stored sound policy).of_respecify respecifies).of_enlist joins

/-- Coming under a policy puts exactly the pod on record, under the policy's name. -/
theorem memberships_admission (h : admission registry policy key = .ok joined) :
    Registry.memberships (Namespaced.insert registry policy.ns policy.name joined) =
      insert (policy.ns, policy.name, key) registry.memberships := by
  obtain ⟨now, _, hj⟩ := admission_eq_ok h
  exact memberships_insert_enlist hj rfl

/-- A pod that is not on the roster of a policy yet is admitted to it under the policy's
body, with itself counted in. -/
theorem admission_of_not_mem (h : admission registry policy key = .ok joined)
    (absent : key ∉ (stored registry policy).qualified) :
    ∃ now wanted,
      policy.target.required ((stored registry policy).qualified.size + 1) policy.action =
          .ok wanted ∧
        joined =
          ((stored registry policy).respecified policy.action policy.target now).accept key
            wanted := by
  obtain ⟨now, _, hj⟩ := admission_eq_ok h
  obtain ⟨present, _⟩ | ⟨_, wanted, hw, rfl⟩ := Roster.enlist_eq_ok hj
  · exact absurd present absent
  · exact ⟨now, wanted, hw, rfl⟩

/-! ## Leaving -/

variable {order : Registry.Order}

/-- The roster that is found holds the pod. -/
theorem rosterWith?_eq_some (h : rosterWith? order registry ns key = some name) :
    ∃ roster, registry.get? ns name = some roster ∧ key ∈ roster.qualified := by
  rw [rosterWith?] at h
  cases found : (order.entries registry ns).find? fun entry => entry.2.qualifies key with
  | none => simp [found] at h
  | some entry =>
    obtain rfl : entry.1 = name := by simpa [found] using h
    exact ⟨entry.2, order.mem_entries.mp (List.mem_of_find?_eq_some found),
      Roster.qualifies_iff.mp (by simpa using List.find?_some found)⟩

/-- Where none is found, no roster of the namespace holds the pod. -/
theorem rosterWith?_eq_none :
    rosterWith? order registry ns key = none ↔ ∀ name, (ns, name, key) ∉ registry.memberships := by
  simp only [rosterWith?, Option.map_eq_none_iff, List.find?_eq_none]
  constructor
  · rintro none_holds name ⟨roster, there, holds⟩
    exact none_holds (name, roster) (order.mem_entries.mpr there) (Roster.qualifies_iff.mpr holds)
  · intro not_there entry h holds
    exact not_there entry.1 ⟨entry.2, order.mem_entries.mp h, Roster.qualifies_iff.mp holds⟩

/-- The roster that is found is the only one that holds the pod, if there is no other. -/
theorem rosterWith?_eq_of_only (there : (ns, name, key) ∈ registry.memberships)
    (only : ∀ other, (ns, other, key) ∈ registry.memberships → other = name) :
    rosterWith? order registry ns key = some name := by
  cases found : rosterWith? order registry ns key with
  | none => exact absurd there (rosterWith?_eq_none.mp found name)
  | some other => rw [only other (rosterWith?_eq_some found)]

theorem leave_of_no_uid (h : pod.uid = "") (order : Registry.Order) (registry : Registry) :
    leave order registry pod = .error (.emptyUid pod.ns pod.name) := by
  simp [leave, key_of_no_uid h]

theorem leave_of_none (hu : pod.uid ≠ "") (h : rosterWith? order registry pod.ns pod.uid = none) :
    leave order registry pod = .ok (none, registry) := by
  simp [leave, key_of_uid hu, h]

/-- A pod that leaves is taken off the roster that is found. -/
theorem leave_of_some (hu : pod.uid ≠ "") (h : rosterWith? order registry pod.ns pod.uid = some name)
    (there : registry.get? pod.ns name = some roster) :
    leave order registry pod =
      (roster.discharge pod.uid).map fun left =>
        (some (name, left), if left.isEmpty then Namespaced.erase registry pod.ns name
          else Namespaced.insert registry pod.ns name left) := by
  have entry : (registry.get? pod.ns name).or none = some roster := by simp [there]
  simp only [leave, key_of_uid hu, h, Registry.modify_eq entry]
  cases roster.discharge pod.uid <;> rfl

/-- Leaving fails without an identifier, finds no roster, or discharges the pod. -/
theorem leave_eq_ok {left : Option (String × Roster)}
    (h : leave order registry pod = .ok (left, after)) :
    pod.uid ≠ "" ∧
      ((∀ name, (pod.ns, name, pod.uid) ∉ registry.memberships) ∧ left = none ∧
          after = registry ∨
        ∃ name roster rest, registry.get? pod.ns name = some roster ∧
          pod.uid ∈ roster.qualified ∧ roster.discharge pod.uid = .ok rest ∧
          left = some (name, rest) ∧
          after = if rest.isEmpty then Namespaced.erase registry pod.ns name
            else Namespaced.insert registry pod.ns name rest) := by
  by_cases hu : pod.uid = ""
  · rw [leave_of_no_uid hu order registry] at h
    cases h
  refine ⟨hu, ?_⟩
  cases found : rosterWith? order registry pod.ns pod.uid with
  | none =>
    rw [leave_of_none hu found] at h
    obtain ⟨rfl, rfl⟩ := Prod.mk.inj (Except.ok.inj h)
    exact .inl ⟨rosterWith?_eq_none.mp found, rfl, rfl⟩
  | some name =>
    obtain ⟨roster, there, holds⟩ := rosterWith?_eq_some found
    rw [leave_of_some hu found there] at h
    cases hd : roster.discharge pod.uid with
    | error e => simp [hd, Except.map] at h
    | ok rest =>
      rw [hd] at h
      obtain ⟨rfl, rfl⟩ := Prod.mk.inj (Except.ok.inj h)
      exact .inr ⟨name, roster, rest, there, holds, hd, rfl, rfl⟩

/-- A pod with an identifier can always leave. -/
theorem exists_leave (sound : registry.Sound) (hu : pod.uid ≠ "") :
    ∃ left after, leave order registry pod = .ok (left, after) := by
  cases found : rosterWith? order registry pod.ns pod.uid with
  | none => exact ⟨_, _, leave_of_none hu found⟩
  | some name =>
    obtain ⟨roster, there, holds⟩ := rosterWith?_eq_some found
    have consistent := (sound.obtainable _ _ _ there).consistent
    obtain ⟨rest, hd⟩ := Roster.exists_discharge (consistent.wellFormed_of_mem holds) pod.uid
    exact ⟨_, _, by rw [leave_of_some hu found there, hd]; rfl⟩

/-- **Leaving strikes one membership of the pod**, if it has any. -/
theorem memberships_leave {left : Option (String × Roster)}
    (h : leave order registry pod = .ok (left, after)) :
    ∃ name, after.memberships = registry.memberships \ {(pod.ns, name, pod.uid)} ∧
      ∀ other, (pod.ns, other, pod.uid) ∈ registry.memberships →
        (pod.ns, name, pod.uid) ∈ registry.memberships := by
  obtain ⟨_, ⟨not_there, _, rfl⟩ | ⟨name, roster, rest, there, holds, hd, _, rfl⟩⟩ := leave_eq_ok h
  · exact ⟨"", (Set.sdiff_singleton_eq_self (not_there "")).symm,
      fun other found => absurd found (not_there other)⟩
  refine ⟨name, ?_, fun _ _ => ⟨roster, there, holds⟩⟩
  have qualified := (Roster.discharge_frame hd).2.2.2.2
  ext ⟨ns', name', key⟩
  have struck : (ns', name', key) ∈ registry.memberships \ {(pod.ns, name, pod.uid)} ↔
      if pod.ns = ns' ∧ name = name' then key ∈ rest.qualified
      else (ns', name', key) ∈ registry.memberships := by
    simp only [Set.mem_sdiff, Set.mem_singleton_iff, Prod.mk.injEq, Registry.mem_memberships]
    split
    next same =>
      obtain ⟨rfl, rfl⟩ := same
      simp [there, qualified, and_comm]
    next other => grind
  rw [struck]
  by_cases empty : rest.isEmpty = true
  · rw [if_pos empty, Registry.mem_memberships_erase]
    have nobody : key ∉ rest.qualified := by
      rw [Roster.isEmpty_iff.mp empty]
      exact Std.ExtTreeSet.not_mem_empty
    split <;> simp_all
  · rw [if_neg empty, Registry.mem_memberships_insert]

/-- A pod that was on one roster of its namespace at most is on none when it has left. -/
theorem not_mem_of_leave {left : Option (String × Roster)}
    (only : ∀ name other, (pod.ns, name, pod.uid) ∈ registry.memberships →
      (pod.ns, other, pod.uid) ∈ registry.memberships → name = other)
    (leaves : leave order registry pod = .ok (left, after)) (name : String) :
    (pod.ns, name, pod.uid) ∉ after.memberships := by
  obtain ⟨struck, strikes, found⟩ := memberships_leave leaves
  rw [strikes]
  rintro ⟨before, other⟩
  exact other (by rw [only _ _ before (found name before)]; rfl)

theorem sound_leave {left : Option (String × Roster)} (sound : registry.Sound)
    (h : leave order registry pod = .ok (left, after)) : after.Sound := by
  obtain ⟨_, ⟨_, _, rfl⟩ | ⟨name, roster, rest, there, _, hd, _, rfl⟩⟩ := leave_eq_ok h
  · exact sound
  split
  next => exact sound.erase _ _
  next =>
    obtain ⟨frameNs, frameName, _⟩ := Roster.discharge_frame hd
    have named := sound.named _ _ _ there
    exact sound.insert ((sound.obtainable _ _ _ there).of_discharge hd)
      ⟨frameNs.trans named.1, frameName.trans named.2⟩

end Membership

end Placement
