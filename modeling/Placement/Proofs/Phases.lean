import Placement.Proofs.Membership
import Placement.Steering

/-!
# What each phase does

The two phases that see the pod are described by everything they can do: what they
report, what the attempt remembers afterwards, and what becomes of the registry.  The
two phases that see a node are described by their reports, which depend on how far the
pod got only; they leave the registry alone.

## Main definitions

* `Steering.PreFiltered`, `Steering.PreScored` — the outcomes of the first two.
* `Steering.verdict`, `Steering.rating` — the reports of the other two.

The main statements are `preFilter_spec`, `preScore_spec`, `filter_fst` and `score_fst`.
-/

namespace Placement

open Placement.Membership

variable {view : View} {pod : Pod} {cycle : CycleState} {node : Node} {desk : Desk}

namespace Desk

/-- The policy that governs a pod is looked up in the view, and only logged. -/
theorem policyFor_eq (desk : Desk) (view : View) (pod : Pod) :
    ∃ next, desk.policyFor view pod = (view.policyFor pod, next) ∧
      next.registry = desk.registry := by
  simp only [policyFor]
  split
  next e h => exact ⟨desk, by rw [h], rfl⟩
  next h => exact ⟨desk.note (.ungoverned pod), by rw [h], rfl⟩
  next policy h => exact ⟨desk.note (.governed pod policy), by rw [h], rfl⟩

/-- The roster of a policy is asked for in the registry. -/
theorem rosterOf_eq (desk : Desk) (policy : Policy) :
    ∃ next, desk.rosterOf policy = ((Membership.rosterOf desk.registry policy).1, next) ∧
      next.registry = (Membership.rosterOf desk.registry policy).2 :=
  ⟨_, rfl, rfl⟩

/-- Joining at the desk joins in the registry, which a failure leaves as it was. -/
theorem join_cases (desk : Desk) (pod : Pod) (roster : Roster) :
    (∃ e, Membership.join desk.registry pod roster = .error e ∧
        desk.join pod roster = (.error e, desk)) ∨
      ∃ joined next, desk.join pod roster = (.ok joined, next) ∧
        Membership.join desk.registry pod roster = .ok (joined, next.registry) := by
  simp only [Desk.join]
  cases Membership.join desk.registry pod roster with
  | error e => exact .inl ⟨e, rfl, rfl⟩
  | ok result => exact .inr ⟨result.1, _, rfl, rfl⟩

/-- Leaving at the desk leaves in the registry, which a failure leaves as it was. -/
theorem leave_cases (desk : Desk) (order : Registry.Order) (pod : Pod) :
    (∃ e, Membership.leave order desk.registry pod = .error e ∧
        desk.leave order pod = (.error e, desk)) ∨
      ∃ left next, desk.leave order pod = (.ok (), next) ∧
        Membership.leave order desk.registry pod = .ok (left, next.registry) := by
  simp only [Desk.leave]
  cases Membership.leave order desk.registry pod with
  | error e => exact .inl ⟨e, rfl, rfl⟩
  | ok result =>
    obtain ⟨_ | ⟨name, roster⟩, after⟩ := result
    · exact .inr ⟨none, _, rfl, rfl⟩
    · exact .inr ⟨some (name, roster), _, rfl, rfl⟩

/-- A pod with an identifier can join a roster that was given. -/
theorem join_of_rosterOf {registry : Registry} {policy : Policy} {roster : Roster}
    (hu : pod.uid ≠ "") (h : (Membership.rosterOf registry policy).1 = .ok roster)
    (desk : Desk) :
    ∃ joined next, desk.join pod roster = (.ok joined, next) ∧
      Membership.join desk.registry pod roster = .ok (joined, next.registry) := by
  have target : roster.target = policy.target := by
    obtain ⟨wanted, _, rfl⟩ := rosterOf_eq_ok h
    rfl
  have wf : roster.target.WellFormed := target ▸ exists_rosterOf_iff.mp ⟨roster, h⟩
  obtain ⟨joined, after, joins⟩ := exists_join hu wf desk.registry
  obtain ⟨e, fails, _⟩ | done := desk.join_cases pod roster
  · rw [joins] at fails
    cases fails
  · exact done

end Desk

namespace Steering

@[simp] theorem isSuccess_failed (text : String) : (failed text).isSuccess = false := rfl

/-! ## Looking at the pod -/

/-- The outcomes of looking at a pod before any node: the report, what the attempt
remembers, and the registry. -/
inductive PreFiltered (view : View) (pod : Pod) (cycle : CycleState) (registry : Registry) :
    Status → CycleState → Registry → Prop
  | unread {e : PlacementError} :
      view.policyFor pod = .error e →
      PreFiltered view pod cycle registry
        (failed s!"failed to get placement policy for pod {pod.name}: {e.message}") cycle registry
  | ungoverned :
      view.policyFor pod = .ok none →
      PreFiltered view pod cycle registry .success (setStage cycle .ungoverned) registry
  | keyless {policy : Policy} :
      view.policyFor pod = .ok (some policy) → pod.uid = "" →
      PreFiltered view pod cycle registry
        (failed (PlacementError.emptyUid pod.ns pod.name).message) cycle registry
  /-- The policy's target cannot be computed.  Its roster was asked for all the same. -/
  | malformed {policy : Policy} {e : PlacementError} :
      view.policyFor pod = .ok (some policy) → pod.uid ≠ "" →
      (rosterOf registry policy).1 = .error e →
      PreFiltered view pod cycle registry
        (failed s!"failed to get policy info of {policy.ns}/{policy.name}: {e.message}") cycle
        (rosterOf registry policy).2
  | chosen {policy : Policy} {roster : Roster} :
      view.policyFor pod = .ok (some policy) → pod.uid ≠ "" → policy.mode = .bestEffort →
      (rosterOf registry policy).1 = .ok roster →
      PreFiltered view pod cycle registry .success
        (setStage cycle (.chosen ⟨policy, roster, pod.uid⟩)) (rosterOf registry policy).2
  | committed {policy : Policy} {roster joined : Roster} {after : Registry} :
      view.policyFor pod = .ok (some policy) → pod.uid ≠ "" → policy.mode = .strict →
      (rosterOf registry policy).1 = .ok roster →
      join (rosterOf registry policy).2 pod roster = .ok (joined, after) →
      PreFiltered view pod cycle registry .success
        (setStage cycle (.committed ⟨policy, joined, pod.uid⟩)) after

theorem preFilter_spec (view : View) (pod : Pod) (cycle : CycleState) (desk : Desk) :
    PreFiltered view pod cycle desk.registry (preFilter view pod cycle desk).1
      (preFilter view pod cycle desk).2.1 (preFilter view pod cycle desk).2.2.registry := by
  obtain ⟨first, hfirst, unchanged⟩ := desk.policyFor_eq view pod
  simp only [preFilter, hfirst]
  cases found : view.policyFor pod with
  | error e => exact unchanged ▸ .unread found
  | ok policy? =>
    cases policy? with
    | none => exact unchanged ▸ .ungoverned found
    | some policy =>
      by_cases hu : pod.uid = ""
      · simp only [key_of_no_uid hu]
        exact unchanged ▸ .keyless found hu
      obtain ⟨second, hsecond, entered⟩ := first.rosterOf_eq policy
      rw [unchanged] at hsecond entered
      simp only [key_of_uid hu, hsecond]
      cases given : (rosterOf desk.registry policy).1 with
      | error e => exact entered ▸ .malformed found hu given
      | ok roster =>
        cases mode : policy.mode with
        | bestEffort => exact entered ▸ .chosen found hu mode given
        | strict =>
          obtain ⟨joined, third, hthird, joins⟩ := second.join_of_rosterOf hu given
          rw [entered] at joins
          simp only [hthird]
          exact .committed found hu mode given joins

/-! ## Looking at the possible nodes -/

/-- While the catalog can be read, the present version of a chosen policy is the one it holds, if
that still selects the pod. -/
theorem present?_eq_ok_iff {decision : Decision} {found : Option Policy} :
    present? view pod decision = .ok found ↔
      view.outage = none ∧
        (view.catalog.policy? decision.policy.ns decision.policy.name).filter
          (fun policy => policy.selects pod.labels) = found := by
  simp only [present?, View.policy?, View.read]
  cases view.outage <;> simp [Except.map]

/-- The outcomes of looking at a pod and the possible nodes: the report, what the
attempt remembers, and the registry. -/
inductive PreScored (view : View) (pod : Pod) (cycle : CycleState) (registry : Registry) :
    Status → CycleState → Registry → Prop
  | missing :
      stage? cycle = none → PreScored view pod cycle registry stageMissing cycle registry
  | ungoverned :
      stage? cycle = some .ungoverned →
      PreScored view pod cycle registry .success cycle registry
  | settled {decision : Decision} :
      stage? cycle = some (.committed decision) →
      PreScored view pod cycle registry .success cycle registry
  | unread {decision : Decision} {e : PlacementError} :
      stage? cycle = some (.chosen decision) → present? view pod decision = .error e →
      PreScored view pod cycle registry
        (failed (s!"failed to get placement policy " ++
          s!"{decision.policy.ns}/{decision.policy.name}: {e.message}")) cycle registry
  /-- The chosen policy is gone, or selects the pod no longer. -/
  | lapsed {decision : Decision} :
      stage? cycle = some (.chosen decision) → present? view pod decision = .ok none →
      PreScored view pod cycle registry .success (setStage cycle .ungoverned) registry
  /-- The policy's target cannot be computed.  Its roster was asked for all the same. -/
  | malformed {decision : Decision} {policy : Policy} {e : PlacementError} :
      stage? cycle = some (.chosen decision) → present? view pod decision = .ok (some policy) →
      (rosterOf registry policy).1 = .error e →
      PreScored view pod cycle registry
        (failed (s!"failed to get policy info of " ++
          s!"{decision.policy.ns}/{decision.policy.name}: {e.message}")) cycle
        (rosterOf registry policy).2
  /-- The pod has no identifier.  The policy's roster was asked for all the same. -/
  | keyless {decision : Decision} {policy : Policy} {roster : Roster} :
      stage? cycle = some (.chosen decision) → present? view pod decision = .ok (some policy) →
      (rosterOf registry policy).1 = .ok roster → pod.uid = "" →
      PreScored view pod cycle registry
        (failed (s!"failed to add pod {pod.name} to placement policy " ++
          s!"{decision.policy.name}: {(PlacementError.emptyUid pod.ns pod.name).message}")) cycle
        (rosterOf registry policy).2
  | committed {decision : Decision} {policy : Policy} {roster joined : Roster}
      {after : Registry} :
      stage? cycle = some (.chosen decision) → present? view pod decision = .ok (some policy) →
      pod.uid ≠ "" → (rosterOf registry policy).1 = .ok roster →
      join (rosterOf registry policy).2 pod roster = .ok (joined, after) →
      PreScored view pod cycle registry .success
        (setStage cycle (.committed ⟨policy, joined, decision.key⟩)) after

/-- A pod with an identifier whose policy still selects it joins under the policy's present
version, if the roster is given. -/
theorem preScore_of_present {decision : Decision} {policy : Policy} {roster : Roster}
    (desk : Desk) (stage : stage? cycle = some (.chosen decision))
    (found : present? view pod decision = .ok (some policy)) (hu : pod.uid ≠ "")
    (given : (rosterOf desk.registry policy).1 = .ok roster) :
    ∃ joined after, preScore view pod cycle desk =
        (.success, setStage cycle (.committed ⟨policy, joined, decision.key⟩), after) ∧
      join (rosterOf desk.registry policy).2 pod roster = .ok (joined, after.registry) := by
  obtain ⟨second, hsecond, entered⟩ := desk.rosterOf_eq policy
  obtain ⟨joined, after, joins, registry⟩ := second.join_of_rosterOf hu given
  rw [entered] at registry
  refine ⟨joined, after, ?_, registry⟩
  simp only [preScore, stage, found, hsecond, given, joins]

theorem preScore_spec (view : View) (pod : Pod) (cycle : CycleState) (desk : Desk) :
    PreScored view pod cycle desk.registry (preScore view pod cycle desk).1
      (preScore view pod cycle desk).2.1 (preScore view pod cycle desk).2.2.registry := by
  cases stage : stage? cycle with
  | none => simpa only [preScore, stage] using .missing stage
  | some stage' =>
    cases stage' with
    | ungoverned => simpa only [preScore, stage] using .ungoverned stage
    | committed decision => simpa only [preScore, stage] using .settled stage
    | chosen decision =>
      cases found : present? view pod decision with
      | error e => simpa only [preScore, stage, found] using .unread stage found
      | ok policy? =>
        cases policy? with
        | none => simpa only [preScore, stage, found] using .lapsed stage found
        | some policy =>
          obtain ⟨second, hsecond, entered⟩ := desk.rosterOf_eq policy
          cases given : (rosterOf desk.registry policy).1 with
          | error e =>
            simp only [preScore, stage, found, hsecond, given]
            exact entered ▸ .malformed stage found given
          | ok roster =>
            by_cases hu : pod.uid = ""
            · have fails : second.join pod roster =
                  (.error (.emptyUid pod.ns pod.name), second) := by
                simp [Desk.join, join_of_no_uid hu]
              simp only [preScore, stage, found, hsecond, given, fails]
              exact entered ▸ .keyless stage found given hu
            · obtain ⟨joined, after, result, joins⟩ := preScore_of_present desk stage found hu given
              rw [result]
              exact .committed stage found hu given joins

/-! ## Looking at a node -/

/-- The report on a node. -/
def verdict : Option Stage → Node → Status
  | none, _ => stageMissing
  | some .ungoverned, _ => .success
  | some (.chosen _), _ => .success
  | some (.committed decision), node =>
    if decision.agrees node then .success
    else (Status.unschedulable [if decision.managed then notSelected else alreadyMet]).signedBy name

/-- The score of a node, and the report on scoring it. -/
def rating (pod : Pod) : Option Stage → Node → Int × Status
  | none, _ => (0, stageMissing)
  | some .ungoverned, _ => (0, .success)
  | some (.chosen _), _ =>
    (0, failed s!"membership of pod {pod.name} was not committed before scoring")
  | some (.committed decision), node =>
    (if decision.agrees node then maxScore else minScore, .success)

theorem filter_fst (pod : Pod) (node : Node) (cycle : CycleState) (desk : Desk) :
    (filter pod node cycle desk).1 = verdict (stage? cycle) node := by
  simp only [filter, verdict]
  split <;> simp_all
  split <;> rfl

@[simp] theorem registry_filter (pod : Pod) (node : Node) (cycle : CycleState) (desk : Desk) :
    (filter pod node cycle desk).2.registry = desk.registry := by
  simp only [filter]
  split <;> try rfl
  split <;> rfl

theorem score_fst (pod : Pod) (node : Node) (cycle : CycleState) (desk : Desk) :
    (score pod node cycle desk).1 = rating pod (stage? cycle) node := by
  simp only [score, rating]
  split <;> simp_all

@[simp] theorem registry_score (pod : Pod) (node : Node) (cycle : CycleState) (desk : Desk) :
    (score pod node cycle desk).2.registry = desk.registry := by
  simp only [score]
  split <;> rfl

@[simp] theorem registry_normalize (pod : Pod) (scores : List NodeScore) (desk : Desk) :
    (normalize pod scores desk).2.registry = desk.registry := by
  simp only [normalize]
  split <;> rfl

end Steering

end Placement
