import Mathlib.Data.List.Nodup
import Placement.Membership
import Placement.Proofs.ByteOrder
import Placement.Proofs.Labels

/-!
# Which policy is found

The policy that governs a pod is told from the others by where it stands among the policies that
match: none goes before it, and it is the first of those that the order does not tell apart from
it.  So neither the order in which the policies are given nor those that do not match have a say.

## Main definitions

* `Policy.Behind` — the order of policies, with names compared byte by byte.
* `Policy.Ties` — what the order does not tell apart.
* `Governs` — where the policy that governs stands.

The main statements are `selectPolicy_governs` and `View.policyFor_eq_some`.
-/

namespace Placement

variable {policies : List Policy} {policy other third : Policy} {labels : Labels} {view : View}
  {pod : Pod}

/-! ## The order of policies -/

namespace Policy

/-- A policy comes no sooner than another one: it is lighter, or as heavy and of a name that is
not smaller, byte by byte. -/
def Behind (other policy : Policy) : Prop :=
  other.weight < policy.weight ∨
    other.weight = policy.weight ∧ ¬other.name.toUTF8.toList < policy.name.toUTF8.toList

/-- Policies that the order does not tell apart. -/
def Ties (other policy : Policy) : Prop :=
  other.weight = policy.weight ∧ other.name = policy.name

theorem behind_iff :
    other.Behind policy ↔
      other.weight < policy.weight ∨ other.weight = policy.weight ∧ policy.name ≤ other.name := by
  rw [Behind, ← Text.Utf8.lt_iff_bytes_lt, not_lt]

/-- A policy that does not go before another one comes no sooner. -/
theorem not_outranks_iff : other.outranks policy = false ↔ other.Behind policy := by
  simp only [outranks, behind_iff, Bool.or_eq_false_iff, Bool.and_eq_false_iff,
    decide_eq_false_iff_not, beq_eq_false_iff_ne, not_lt, Int32.not_lt]
  constructor
  · rintro ⟨le, differ | least⟩
    · exact .inl (Int32.lt_of_le_of_ne le differ)
    · exact (Int32.le_iff_lt_or_eq.mp le).imp_right fun same => ⟨same, least⟩
  · rintro (lt | ⟨same, least⟩)
    · exact ⟨Int32.le_iff_lt_or_eq.mpr (.inl lt), .inl fun same => Int32.lt_irrefl (same ▸ lt)⟩
    · exact ⟨Int32.le_iff_lt_or_eq.mpr (.inr same), .inr least⟩

theorem Behind.refl (policy : Policy) : policy.Behind policy :=
  behind_iff.mpr (.inr ⟨rfl, le_refl _⟩)

theorem Behind.trans (h : third.Behind other) (h' : other.Behind policy) :
    third.Behind policy := by
  rw [behind_iff] at *
  obtain lt | ⟨same, least⟩ := h
  · obtain lt' | ⟨same', _⟩ := h'
    · exact .inl (Int32.lt_trans lt lt')
    · exact .inl (same' ▸ lt)
  · obtain lt' | ⟨same', least'⟩ := h'
    · exact .inl (same ▸ lt')
    · exact .inr ⟨same.trans same', le_trans least' least⟩

/-- Of two policies one comes no sooner than the other, and if neither comes sooner, the order
does not tell them apart. -/
theorem behind_and_behind_iff : other.Behind policy ∧ policy.Behind other ↔ other.Ties policy := by
  simp only [behind_iff, Ties]
  constructor
  · rintro ⟨lt | ⟨same, ge⟩, lt' | ⟨same', le⟩⟩
    · exact absurd lt' (Int32.lt_asymm lt)
    · exact absurd lt (same' ▸ Int32.lt_irrefl)
    · exact absurd lt' (same ▸ Int32.lt_irrefl)
    · exact ⟨same, le_antisymm le ge⟩
  · rintro ⟨weight, name⟩
    exact ⟨.inr ⟨weight, le_of_eq name.symm⟩, .inr ⟨weight.symm, le_of_eq name⟩⟩

theorem Behind.total (other policy : Policy) : other.Behind policy ∨ policy.Behind other := by
  simp only [behind_iff]
  by_cases lt : other.weight < policy.weight
  · exact .inl (.inl lt)
  · rcases Int32.le_iff_lt_or_eq.mp (Int32.not_lt.mp lt) with gt | same
    · exact .inr (.inl gt)
    · exact (le_total policy.name other.name).imp (.inr ⟨same.symm, ·⟩) (.inr ⟨same, ·⟩)

/-- A policy goes before another one that comes no sooner and that the order tells from it. -/
theorem outranks_iff : policy.outranks other = true ↔ other.Behind policy ∧ ¬other.Ties policy := by
  rw [← Bool.not_eq_false, not_outranks_iff, ← behind_and_behind_iff]
  have := Behind.total other policy
  tauto

end Policy

/-! ## The foremost policy -/

/-- A policy stands at the head of a list as far as the order goes: all others come no sooner, and
those given before it can be told from it. -/
structure Leads (before : List Policy) (policy : Policy) (after : List Policy) : Prop where
  before : ∀ other ∈ before, other.Behind policy ∧ ¬other.Ties policy
  after : ∀ other ∈ after, other.Behind policy

theorem Leads.behind {before after : List Policy} (h : Leads before policy after)
    (ho : other ∈ before ++ policy :: after) : other.Behind policy := by
  rcases List.mem_append.mp ho with earlier | later
  · exact (h.before other earlier).1
  · rcases List.mem_cons.mp later with rfl | later
    · exact .refl other
    · exact h.after other later

theorem foremost?_eq_none_iff : foremost? policies = none ↔ policies = [] := by
  cases policies with
  | nil => exact iff_of_true rfl rfl
  | cons first rest =>
    simp only [foremost?, reduceCtorEq, iff_false]
    split
    · nofun
    · split <;> nofun

/-- The policy that is found leads.  Where the first one stays it leads all of the rest, since
they come no sooner than the one that it was compared with. -/
theorem leads_of_foremost? (h : foremost? policies = some policy) :
    ∃ before after, policies = before ++ policy :: after ∧ Leads before policy after := by
  induction policies generalizing policy with
  | nil => cases h
  | cons first rest ih =>
    simp only [foremost?] at h
    split at h
    next none_left =>
      obtain rfl := Option.some.inj h
      obtain rfl := foremost?_eq_none_iff.mp none_left
      exact ⟨[], [], rfl, nofun, nofun⟩
    next other found =>
      obtain ⟨before, after, rfl, leads⟩ := ih found
      split at h
      next outranks =>
        obtain rfl := Option.some.inj h
        refine ⟨first :: before, after, rfl, ?_, leads.after⟩
        rintro third (_ | ⟨_, ht⟩)
        · exact Policy.outranks_iff.mp outranks
        · exact leads.before third ht
      next stays =>
        obtain rfl := Option.some.inj h
        have behind := Policy.not_outranks_iff.mp (Bool.eq_false_iff.mpr stays)
        exact ⟨[], _, rfl, nofun, fun third ht => (leads.behind ht).trans behind⟩

theorem foremost?_mem (h : foremost? policies = some policy) : policy ∈ policies := by
  obtain ⟨before, after, rfl, _⟩ := leads_of_foremost? h
  exact List.mem_append_right before List.mem_cons_self

theorem behind_foremost? (h : foremost? policies = some policy) (ho : other ∈ policies) :
    other.Behind policy := by
  obtain ⟨before, after, rfl, leads⟩ := leads_of_foremost? h
  exact leads.behind ho

/-- **A policy is found exactly if it leads.** -/
theorem foremost?_eq_some_iff :
    foremost? policies = some policy ↔
      ∃ before after, policies = before ++ policy :: after ∧ Leads before policy after := by
  refine ⟨leads_of_foremost?, ?_⟩
  rintro ⟨before, after, rfl, leads⟩
  -- The policies before the leading one give way to it one by one.
  induction before with
  | nil =>
    rw [List.nil_append, foremost?]
    cases found : foremost? after with
    | none => rfl
    | some other =>
      have behind := leads.after other (foremost?_mem found)
      simp [Policy.not_outranks_iff.mpr behind]
  | cons first before ih =>
    have rest := ih ⟨fun other ho => leads.before other (List.mem_cons_of_mem first ho),
      leads.after⟩
    have outranked := Policy.outranks_iff.mpr (leads.before first List.mem_cons_self)
    simp only [List.cons_append, foremost?, rest, outranked, if_true]

/-- Among policies of distinct names the order in which they are given does not matter. -/
theorem foremost?_perm {policies' : List Policy} (distinct : (policies.map (·.name)).Nodup)
    (perm : policies.Perm policies') : foremost? policies' = foremost? policies := by
  cases found : foremost? policies with
  | none => rw [foremost?_eq_none_iff] at *; exact (found ▸ perm).nil_eq.symm
  | some policy =>
    have there := foremost?_mem found
    cases found' : foremost? policies' with
    | none =>
      obtain rfl := foremost?_eq_none_iff.mp found'
      exact absurd (perm.mem_iff.mp there) List.not_mem_nil
    | some policy' =>
      have there' := perm.mem_iff.mpr (foremost?_mem found')
      have ties := Policy.behind_and_behind_iff.mp
        ⟨behind_foremost? found there', behind_foremost? found' (perm.mem_iff.mp there)⟩
      rw [List.inj_on_of_nodup_map distinct there' there ties.2]

/-! ## The policy that governs -/

theorem selects_iff : policy.selects labels = true ↔ labels.Includes policy.podSelector :=
  Labels.satisfies_iff

/-- The policy that governs is one of the policies, and selects the pod. -/
theorem selectPolicy_eq_some (h : selectPolicy policies labels = some policy) :
    policy ∈ policies ∧ policy.selects labels = true :=
  List.mem_filter.mp (foremost?_mem h)

/-- Where the policy stands that governs the pods with some labels: they hold what it selects by,
of the others that match none comes sooner, and those given before it can be told from it. -/
structure Governs (labels : Labels) (before : List Policy) (policy : Policy)
    (after : List Policy) : Prop where
  selects : labels.Includes policy.podSelector
  before : ∀ other ∈ before, labels.Includes other.podSelector →
    other.Behind policy ∧ ¬other.Ties policy
  after : ∀ other ∈ after, labels.Includes other.podSelector → other.Behind policy

/-- A policy governs if it matches and leads the others that match. -/
theorem governs_iff {before after : List Policy} :
    Governs labels before policy after ↔
      policy.selects labels = true ∧
        Leads (before.filter (·.selects labels)) policy (after.filter (·.selects labels)) := by
  constructor
  · rintro ⟨selects, earlier, later⟩
    refine ⟨selects_iff.mpr selects, ?_, ?_⟩
    · simpa only [List.mem_filter, selects_iff, and_imp] using earlier
    · simpa only [List.mem_filter, selects_iff, and_imp] using later
  · rintro ⟨selects, earlier, later⟩
    refine ⟨selects_iff.mp selects, ?_, ?_⟩
    · simpa only [List.mem_filter, selects_iff, and_imp] using earlier
    · simpa only [List.mem_filter, selects_iff, and_imp] using later

theorem selectPolicy_eq_none_iff :
    selectPolicy policies labels = none ↔
      ∀ policy ∈ policies, ¬labels.Includes policy.podSelector := by
  simp only [selectPolicy, foremost?_eq_none_iff, List.filter_eq_nil_iff, selects_iff]

theorem selectPolicy_eq_some_iff :
    selectPolicy policies labels = some policy ↔
      ∃ before after, policies = before ++ policy :: after ∧
        Governs labels before policy after := by
  rw [selectPolicy, foremost?_eq_some_iff]
  constructor
  · rintro ⟨earlier, later, split, leads⟩
    obtain ⟨before, rest, rfl, rfl, split'⟩ := List.filter_eq_append_iff.mp split
    obtain ⟨skipped, after, rfl, others, selects, rfl⟩ := List.filter_eq_cons_iff.mp split'
    refine ⟨before ++ skipped, after, by simp, governs_iff.mpr ⟨selects, ?_⟩⟩
    rwa [List.filter_append, List.filter_eq_nil_iff.mpr others, List.append_nil]
  · rintro ⟨before, after, rfl, governs⟩
    obtain ⟨selects, leads⟩ := governs_iff.mp governs
    exact ⟨_, _, by rw [List.filter_append, List.filter_cons, if_pos selects], leads⟩

theorem selectPolicy_perm {policies' : List Policy} (distinct : (policies.map (·.name)).Nodup)
    (perm : policies.Perm policies') (labels : Labels) :
    selectPolicy policies' labels = selectPolicy policies labels :=
  foremost?_perm (distinct.sublist (List.filter_sublist.map _)) (perm.filter _)

theorem selectPolicy_insert {before others after : List Policy}
    (h : ∀ other ∈ others, ¬labels.Includes other.podSelector) :
    selectPolicy (before ++ others ++ after) labels = selectPolicy (before ++ after) labels := by
  have none_match : others.filter (·.selects labels) = [] :=
    List.filter_eq_nil_iff.mpr fun other ho selects => h other ho (selects_iff.mp selects)
  simp only [selectPolicy, List.filter_append, none_match, List.append_nil]

/-- **Which policy governs.**  None does exactly if the labels hold what no policy selects by.
Otherwise it is the one that matches and that no other match comes before in the order, the first
of those that the order does not tell apart.  Among policies of distinct names it is the same in
whatever order they are given, and policies that do not match can come and go. -/
theorem selectPolicy_governs (policies : List Policy) (labels : Labels) :
    (selectPolicy policies labels = none ↔
        ∀ policy ∈ policies, ¬labels.Includes policy.podSelector) ∧
      (∀ policy, selectPolicy policies labels = some policy ↔
        ∃ before after, policies = before ++ policy :: after ∧
          Governs labels before policy after) ∧
      (∀ policies' : List Policy, (policies.map (·.name)).Nodup → policies.Perm policies' →
        selectPolicy policies' labels = selectPolicy policies labels) ∧
      ∀ before others after : List Policy, policies = before ++ after →
        (∀ other ∈ others, ¬labels.Includes other.podSelector) →
          selectPolicy (before ++ others ++ after) labels = selectPolicy policies labels := by
  refine ⟨selectPolicy_eq_none_iff, fun policy => selectPolicy_eq_some_iff, ?_, ?_⟩
  · exact fun policies' distinct perm => selectPolicy_perm distinct perm labels
  · rintro before others after rfl none_match
    exact selectPolicy_insert none_match

/-- A policy for the pods of an application. -/
def Policy.offer (name app : String) (weight : Int32) : Policy where
  name := name
  ns := "shop"
  weight := weight
  podSelector := (∅ : Labels).insert "app" app

/-- Of two policies of the same weight the one of the smaller name governs, also when they are
given the other way round and when a heavier one comes in that does not match. -/
theorem selectPolicy_governs_cup :
    let listed := [Policy.offer "tea" "web" 3, .offer "pot" "web" 7, .offer "cup" "web" 7]
    let labels : Labels := (∅ : Labels).insert "app" "web"
    (listed.map (·.name)).Nodup ∧ listed.Perm listed.reverse ∧
      listed = [.offer "tea" "web" 3] ++ [.offer "pot" "web" 7, .offer "cup" "web" 7] ∧
      (∀ other ∈ [Policy.offer "mug" "batch" 9], ¬labels.Includes other.podSelector) ∧
      selectPolicy listed labels = some (.offer "cup" "web" 7) ∧
      selectPolicy listed.reverse labels = some (.offer "cup" "web" 7) ∧
      selectPolicy ([.offer "tea" "web" 3] ++ [.offer "mug" "batch" 9] ++
        [.offer "pot" "web" 7, .offer "cup" "web" 7]) labels = some (.offer "cup" "web" 7) := by
  intro listed labels
  obtain ⟨-, -, reordered, inserted⟩ := selectPolicy_governs listed labels
  have distinct : (listed.map (·.name)).Nodup := by decide
  have found : selectPolicy listed labels = some (.offer "cup" "web" 7) := by decide +kernel
  have none_match : ∀ other ∈ [Policy.offer "mug" "batch" 9],
      ¬labels.Includes other.podSelector := by
    decide +kernel
  have reverse := listed.reverse_perm.symm
  exact ⟨distinct, reverse, rfl, none_match, found,
    (reordered _ distinct reverse).trans found, (inserted _ _ _ rfl none_match).trans found⟩

namespace View

/-- While the catalog can be read, the policy that governs a pod is looked for in its
namespace. -/
theorem policyFor_of_readable (readable : view.outage = none) (pod : Pod) :
    view.policyFor pod = .ok (selectPolicy (view.catalog.policiesIn pod.ns) pod.labels) := by
  rw [policyFor, read, readable]
  rfl

/-- Where a policy is found to govern a pod, the catalog can be read, and has it in the
pod's namespace. -/
theorem policyFor_eq_some (h : view.policyFor pod = .ok (some policy)) :
    view.outage = none ∧ policy.ns = pod.ns ∧
      view.catalog.policy? policy.ns policy.name = some policy ∧
      policy.selects pod.labels = true := by
  simp only [policyFor, read] at h
  cases hv : view.outage with
  | some message => simp [hv, Except.map] at h
  | none =>
    simp only [hv, Except.map, Except.ok.injEq] at h
    obtain ⟨there, selects⟩ := selectPolicy_eq_some h
    obtain ⟨same, found⟩ := (Catalog.mem_policiesIn ..).mp there
    exact ⟨rfl, same, found, selects⟩

end View

end Placement
