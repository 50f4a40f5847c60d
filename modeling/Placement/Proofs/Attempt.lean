import Placement.Proofs.Host
import Placement.Proofs.Phases
import Placement.Proofs.Selection

/-!
# What one attempt does

An attempt under the placement plugin is described as a whole: its outcome depends on
the nodes, on how far the pod got before they were judged, and on how far it got before
they were scored; and the registry changes by one admission at most.

## Main definitions

* `Steering.outcome` — the outcome, from the two stages.
* `Steering.Attempted` — the outcome and the registry, from the policy that governs.
* `Steering.committing` — the policy under which the pod is put on record.

The main statements are `schedule_spec` and `Attempted.gains`.
-/

namespace Placement

open Placement.Membership

namespace Steering

variable {view : View} {pod : Pod} {nodes : List Node} {cycle next : CycleState}
  {desk after : Desk} {status : Status} {judged scored : Stage}

/-- The nodes that are let through at a stage. -/
def possible (stage : Option Stage) (nodes : List Node) : List Node :=
  nodes.filter fun node => (verdict stage node).isSuccess

/-- The raw scores of nodes at a stage. -/
def rated (pod : Pod) (stage : Option Stage) (nodes : List Node) : List NodeScore :=
  nodes.map fun node => ⟨node.name, (rating pod stage node).1⟩

/-- The outcome of an attempt, from the stages at which nodes were judged and scored. -/
def outcome (pod : Pod) (nodes : List Node) (judged scored : Stage) : Except Status Assignment :=
  if (possible (some judged) nodes).isEmpty then .error (Host.noneAvailable nodes.length)
  else .ok (Host.assign pod (rescale (rated pod (some scored) (possible (some judged) nodes))))

/-! ## The steps of the host -/

/-- Judging nodes lets the possible ones through and leaves the registry alone. -/
theorem feasible_eq (view : View) (pod : Pod) (nodes : List Node) (cycle : CycleState)
    (desk : Desk) :
    ∃ after, Host.feasible (plugin view) pod nodes cycle desk =
        (possible (stage? cycle) nodes, after) ∧ after.registry = desk.registry := by
  have judged := Host.feasible_fst (plugin view) pod cycle
    (fun node desk => filter_fst pod node cycle desk) nodes desk
  have unchanged := Host.feasible_keeps (plugin view) pod cycle
    (I := fun after => after.registry = desk.registry)
    (fun node after h => (registry_filter pod node cycle after).trans h)
    (fun line after h => h) nodes rfl
  exact ⟨_, Prod.ext judged rfl, unchanged⟩

/-- At a stage at which nodes can be scored, they are, and their scores are rescaled. -/
theorem scores_eq (view : View) (pod : Pod) (nodes : List Node) (desk : Desk)
    (stage : stage? cycle = some scored) (ready : ∀ decision, scored ≠ .chosen decision) :
    ∃ after, Host.scores (plugin view) pod nodes cycle desk =
        (.ok (rescale (rated pod (some scored) nodes)), after) ∧
      after.registry = desk.registry := by
  have unchanged := Host.scores_keeps (plugin view) pod cycle
    (I := fun after => after.registry = desk.registry)
    (fun node after h => (registry_score pod node cycle after).trans h)
    (fun f hf raw after h => by
      obtain rfl := Option.some.inj hf
      exact (registry_normalize pod raw after).trans h) nodes rfl
  refine ⟨_, Prod.ext ?_ rfl, unchanged⟩
  have ratings := Host.through_fst (fun node desk => score_fst pod node cycle desk) nodes desk
  have success : ∀ node ∈ nodes, (rating pod (some scored) node).2.isSuccess = true := by
    intro node _
    cases scored with
    | ungoverned => rfl
    | chosen decision => exact absurd rfl (ready decision)
    | committed decision => rfl
  have collected := Host.collect_eq_ok success
  simp only [Host.scores, plugin, ratings, stage, collected, normalize]
  rfl

/-- An attempt ends with the report of a first phase that fails. -/
theorem schedule_of_failure (h : preFilter view pod ∅ desk = (status, cycle, after))
    (fails : status.isSuccess = false) (nodes : List Node) :
    Host.schedule (plugin view) pod nodes desk = (.error status, after) := by
  have first : (plugin view).preFilter pod nodes ∅ desk = (status, cycle, after) := h
  simp [Host.schedule, first, fails]

/-- An attempt whose pod got to a stage in the first phase, and to one at which nodes can
be scored in the third.  The third one only matters when there are possible nodes. -/
theorem schedule_of_success (nodes : List Node) (scored : Stage)
    (h : preFilter view pod ∅ desk = (status, cycle, after)) (success : status.isSuccess = true)
    (stage : stage? cycle = some judged)
    {R : Registry → Prop} (stuck : possible (some judged) nodes = [] → R after.registry)
    (ranks : possible (some judged) nodes ≠ [] →
      ∀ third, third.registry = after.registry → ∃ report last ranked,
        preScore view pod cycle third = (report, last, ranked) ∧ report.isSuccess = true ∧
          stage? last = some scored ∧ (∀ decision, scored ≠ .chosen decision) ∧
          R ranked.registry) :
    (Host.schedule (plugin view) pod nodes desk).1 = outcome pod nodes judged scored ∧
      R (Host.schedule (plugin view) pod nodes desk).2.registry := by
  have first : (plugin view).preFilter pod nodes ∅ desk = (status, cycle, after) := h
  obtain ⟨second, hsecond, unchanged⟩ := feasible_eq view pod nodes cycle after
  rw [stage] at hsecond
  by_cases none_left : possible (some judged) nodes = []
  · have empty : (possible (some judged) nodes).isEmpty = true := by rw [none_left]; rfl
    have result : Host.schedule (plugin view) pod nodes desk =
        (.error (Host.noneAvailable nodes.length), second) := by
      simp [Host.schedule, first, success, hsecond, empty]
    rw [result, outcome, if_pos empty]
    exact ⟨rfl, unchanged ▸ stuck none_left⟩
  · have some_left : (possible (some judged) nodes).isEmpty = false := by
      rwa [List.isEmpty_eq_false_iff]
    obtain ⟨report, last, ranked, hthird, success', stage', ready, registry⟩ :=
      ranks none_left second unchanged
    have third : (plugin view).preScore pod (possible (some judged) nodes) cycle second =
        (report, last, ranked) := hthird
    obtain ⟨final, hfourth, unchanged'⟩ :=
      scores_eq view pod (possible (some judged) nodes) ranked stage' ready
    have result : Host.schedule (plugin view) pod nodes desk =
        (.ok (Host.assign pod (rescale (rated pod (some scored) (possible (some judged) nodes)))),
          final) := by
      simp [Host.schedule, first, success, hsecond, some_left, third, success', hfourth, Except.map]
    rw [result, outcome, if_neg (by simp [some_left])]
    exact ⟨rfl, unchanged' ▸ registry⟩

/-! ## The attempt as a whole -/

/-- The policy that governs a pod is still there when an attempt comes back to it. -/
theorem present?_of_policyFor {policy : Policy} {roster : Roster} {key : String}
    (h : view.policyFor pod = .ok (some policy)) :
    present? view pod ⟨policy, roster, key⟩ = .ok (some policy) := by
  obtain ⟨readable, _, there, selects⟩ := View.policyFor_eq_some h
  exact present?_eq_ok_iff.mpr ⟨readable, Option.filter_eq_some_iff.mpr ⟨there, selects⟩⟩

/-- The outcomes of an attempt, and the registry it leaves. -/
inductive Attempted (view : View) (pod : Pod) (nodes : List Node) (registry : Registry) :
    Except Status Assignment → Registry → Prop
  | unread {e : PlacementError} :
      view.policyFor pod = .error e →
      Attempted view pod nodes registry
        (.error (failed s!"failed to get placement policy for pod {pod.name}: {e.message}"))
        registry
  | ungoverned :
      view.policyFor pod = .ok none →
      Attempted view pod nodes registry (outcome pod nodes .ungoverned .ungoverned) registry
  | keyless {policy : Policy} :
      view.policyFor pod = .ok (some policy) → pod.uid = "" →
      Attempted view pod nodes registry
        (.error (failed (PlacementError.emptyUid pod.ns pod.name).message)) registry
  /-- The policy's target cannot be computed.  Its roster was asked for all the same. -/
  | malformed {policy : Policy} {e : PlacementError} :
      view.policyFor pod = .ok (some policy) → pod.uid ≠ "" →
      (rosterOf registry policy).1 = .error e →
      Attempted view pod nodes registry
        (.error (failed s!"failed to get policy info of {policy.ns}/{policy.name}: {e.message}"))
        (rosterOf registry policy).2
  /-- The policy is strict.  The pod has joined before any node was judged. -/
  | enforced {policy : Policy} {joined : Roster} :
      view.policyFor pod = .ok (some policy) → pod.uid ≠ "" → policy.mode = .strict →
      admission registry policy pod.uid = .ok joined →
      Attempted view pod nodes registry
        (outcome pod nodes (.committed ⟨policy, joined, pod.uid⟩)
          (.committed ⟨policy, joined, pod.uid⟩))
        (Namespaced.insert registry policy.ns policy.name joined)
  | deserted {policy : Policy} {roster : Roster} :
      view.policyFor pod = .ok (some policy) → pod.uid ≠ "" → policy.mode = .bestEffort →
      (rosterOf registry policy).1 = .ok roster → nodes = [] →
      Attempted view pod nodes registry (.error (Host.noneAvailable 0))
        (rosterOf registry policy).2
  /-- The policy only ranks nodes.  The pod has joined before they were scored. -/
  | ranked {policy : Policy} {roster joined : Roster} :
      view.policyFor pod = .ok (some policy) → pod.uid ≠ "" → policy.mode = .bestEffort →
      nodes ≠ [] → admission registry policy pod.uid = .ok joined →
      Attempted view pod nodes registry
        (outcome pod nodes (.chosen ⟨policy, roster, pod.uid⟩)
          (.committed ⟨policy, joined, pod.uid⟩))
        (Namespaced.insert registry policy.ns policy.name joined)

/-- A best-effort policy that was only chosen so far rules no node out. -/
@[simp] theorem possible_chosen (decision : Decision) (nodes : List Node) :
    possible (some (.chosen decision)) nodes = nodes :=
  List.filter_eq_self.mpr fun _ _ => rfl

@[simp] theorem possible_ungoverned (nodes : List Node) :
    possible (some .ungoverned) nodes = nodes :=
  List.filter_eq_self.mpr fun _ _ => rfl

/-- What joining after asking for the roster gives is the admission. -/
theorem admission_of_join {registry after : Registry} {policy : Policy} {roster joined : Roster}
    (sound : registry.Sound) (hu : pod.uid ≠ "") (given : (rosterOf registry policy).1 = .ok roster)
    (joins : join (rosterOf registry policy).2 pod roster = .ok (joined, after)) :
    admission registry policy pod.uid = .ok joined ∧
      after = Namespaced.insert registry policy.ns policy.name joined := by
  rw [join_rosterOf sound hu given] at joins
  cases h : admission registry policy pod.uid with
  | error e =>
    rw [h] at joins
    cases joins
  | ok roster' =>
    rw [h] at joins
    obtain ⟨rfl, rfl⟩ := Prod.mk.inj (Except.ok.inj joins)
    exact ⟨rfl, rfl⟩

/-- A pod that has joined, or is governed by no policy, is past the third phase. -/
theorem preScore_of_ready (stage : stage? cycle = some judged)
    (ready : ∀ decision, judged ≠ .chosen decision) (desk : Desk) :
    preScore view pod cycle desk = (.success, cycle, desk) := by
  cases judged with
  | ungoverned => simp only [preScore, stage]
  | chosen decision => exact absurd rfl (ready decision)
  | committed decision => simp only [preScore, stage]

/-- An attempt whose policy was only chosen in the first phase. -/
theorem attempted_of_chosen (nodes : List Node) {policy : Policy} {roster : Roster}
    (sound : desk.registry.Sound)
    (looked : preFilter view pod ∅ desk =
      (.success, setStage ∅ (.chosen ⟨policy, roster, pod.uid⟩), after))
    (left : after.registry = (rosterOf desk.registry policy).2)
    (found : view.policyFor pod = .ok (some policy)) (hu : pod.uid ≠ "")
    (mode : policy.mode = .bestEffort) (given : (rosterOf desk.registry policy).1 = .ok roster) :
    Attempted view pod nodes desk.registry (Host.schedule (plugin view) pod nodes desk).1
      (Host.schedule (plugin view) pod nodes desk).2.registry := by
  have stage := stage?_setStage ∅ (.chosen ⟨policy, roster, pod.uid⟩)
  obtain ⟨joined, admitted⟩ := exists_admission (exists_rosterOf_iff.mp ⟨roster, given⟩)
    desk.registry pod.uid
  -- The third phase meets the same policy and, since asking twice is asking once, joins the
  -- same roster as if the first one had not asked for it.
  have joins (third : Desk) (h : third.registry = after.registry) :
      ∃ ranked, preScore view pod (setStage ∅ (.chosen ⟨policy, roster, pod.uid⟩)) third =
          (.success, setStage (setStage ∅ (.chosen ⟨policy, roster, pod.uid⟩))
            (.committed ⟨policy, joined, pod.uid⟩), ranked) ∧
        ranked.registry = Namespaced.insert desk.registry policy.ns policy.name joined := by
    have again : rosterOf third.registry policy = rosterOf desk.registry policy := by
      rw [h, left, rosterOf_rosterOf]
    obtain ⟨joined', ranked, result, joins⟩ := preScore_of_present third stage
      (present?_of_policyFor found) hu (again ▸ given)
    rw [again] at joins
    obtain ⟨admitted', registry⟩ := admission_of_join sound hu given joins
    obtain rfl : joined = joined' := Except.ok.inj (admitted.symm.trans admitted')
    exact ⟨ranked, result, registry⟩
  by_cases empty : nodes = []
  · obtain ⟨result, registry⟩ := schedule_of_success nodes .ungoverned
      (R := fun r => r = (rosterOf desk.registry policy).2) looked rfl stage (fun _ => left)
      fun some_left => absurd empty (by simpa using some_left)
    rw [result, registry]
    simpa [outcome, empty] using Attempted.deserted found hu mode given empty
  · obtain ⟨result, registry⟩ := schedule_of_success nodes _
      (R := fun r => r = Namespaced.insert desk.registry policy.ns policy.name joined)
      looked rfl stage (fun none_left => absurd (by simpa using none_left) empty)
      fun _ third h => by
        obtain ⟨ranked, result, registry⟩ := joins third h
        exact ⟨_, _, _, result, rfl, stage?_setStage _ _, by simp, registry⟩
    rw [result, registry]
    exact .ranked found hu mode empty admitted

/-- **An attempt does one of these, and nothing else.** -/
theorem schedule_spec (view : View) (pod : Pod) (nodes : List Node) (desk : Desk)
    (sound : desk.registry.Sound) :
    Attempted view pod nodes desk.registry (Host.schedule (plugin view) pod nodes desk).1
      (Host.schedule (plugin view) pod nodes desk).2.registry := by
  have spec := preFilter_spec view pod ∅ desk
  generalize looked : preFilter view pod ∅ desk = first at spec
  obtain ⟨status, cycle, after⟩ := first
  dsimp only at spec
  generalize left : after.registry = registry' at spec
  cases spec with
  | unread found =>
    rw [schedule_of_failure looked rfl]
    exact left ▸ .unread found
  | keyless found hu =>
    rw [schedule_of_failure looked rfl]
    exact left ▸ .keyless found hu
  | malformed found hu fails =>
    rw [schedule_of_failure looked rfl]
    exact left ▸ .malformed found hu fails
  | chosen found hu mode given =>
    exact attempted_of_chosen nodes sound looked left found hu mode given
  | ungoverned found =>
    have stage := stage?_setStage ∅ .ungoverned
    obtain ⟨result, registry⟩ := schedule_of_success nodes _
      (R := fun r => r = desk.registry) looked rfl stage (fun _ => left) fun _ third h =>
        ⟨_, _, _, preScore_of_ready stage (by simp) third, rfl, stage, by simp, h.trans left⟩
    rw [result, registry]
    exact .ungoverned found
  | @committed policy roster joined _ found hu mode given joins =>
    have stage := stage?_setStage ∅ (.committed ⟨policy, joined, pod.uid⟩)
    obtain ⟨admitted, rfl⟩ := admission_of_join sound hu given joins
    obtain ⟨result, registry⟩ := schedule_of_success nodes _
      (R := fun r => r = Namespaced.insert desk.registry policy.ns policy.name joined)
      looked rfl stage (fun _ => left) fun _ third h =>
        ⟨_, _, _, preScore_of_ready stage (by simp) third, rfl, stage, by simp, h.trans left⟩
    rw [result, registry]
    exact .enforced found hu mode admitted

/-! ## The memberships -/

/-- The policy under which an attempt puts the pod on record, if it does.  A pod without
an identifier is not put on record, nor is one whose policy has a malformed target; where
the policy only ranks nodes, some node is needed to get as far. -/
def committing (view : View) (pod : Pod) (nodes : List Node) : Option Policy :=
  match view.policyFor pod with
  | .ok (some policy) =>
    if pod.uid ≠ "" ∧ policy.target.WellFormed ∧ (policy.mode = .strict ∨ nodes ≠ []) then
      some policy
    else none
  | _ => none

/-- The membership that an attempt puts on record, if it does. -/
def commitment (view : View) (pod : Pod) (nodes : List Node) : Option (String × String × String) :=
  (committing view pod nodes).map fun policy => (policy.ns, policy.name, pod.uid)

/-- An attempt puts on record what it commits to, whatever its outcome. -/
theorem Attempted.gains {registry registry' : Registry} {result : Except Status Assignment}
    (h : Attempted view pod nodes registry result registry') :
    registry.Gains registry' (commitment view pod nodes) := by
  cases h with
  | unread found => simp [Registry.Gains, commitment, committing, found]
  | ungoverned found => simp [Registry.Gains, commitment, committing, found]
  | keyless found hu => simp [Registry.Gains, commitment, committing, found, hu]
  | malformed found hu fails =>
    have malformed := not_wellFormed_of_rosterOf fails
    simp [Registry.Gains, commitment, committing, found, malformed]
  | enforced found hu mode admitted =>
    have wf := wellFormed_of_admission admitted
    simp [Registry.Gains, commitment, committing, found, hu, wf, mode,
      memberships_admission admitted]
  | deserted found hu mode given empty =>
    simp [Registry.Gains, commitment, committing, found, mode, empty]
  | ranked found hu mode some_node admitted =>
    have wf := wellFormed_of_admission admitted
    simp [Registry.Gains, commitment, committing, found, hu, wf, some_node,
      memberships_admission admitted]

end Steering

end Placement
