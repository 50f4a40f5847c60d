import Placement.Proofs.Session

/-!
# An attempt in one equation

What an attempt does is a function of the policy that is found to govern the pod, of the
pod, of the nodes and of the registry.  Two attempts can be compared by comparing what goes
into it.

## Main definitions

* `Steering.conclusion` — the outcome of an attempt and the registry it leaves.

The main statements are `Steering.schedule_eq`, and `Session.step_schedule` on sessions.
-/

namespace Placement

open Placement.Membership

namespace Steering

variable {view : View} {pod : Pod} {nodes : List Node} {registry after : Registry}
  {result : Except Status Assignment}

/-- The outcome of an attempt and the registry it leaves.  Without any node a policy that only
ranks them is not joined, but its roster was asked for. -/
def conclusion (governs : Except PlacementError (Option Policy)) (pod : Pod) (nodes : List Node)
    (registry : Registry) : Except Status Assignment × Registry :=
  match governs with
  | .error e =>
    (.error (failed s!"failed to get placement policy for pod {pod.name}: {e.message}"), registry)
  | .ok none => (outcome pod nodes .ungoverned .ungoverned, registry)
  | .ok (some policy) =>
    if pod.uid = "" then
      (.error (failed (PlacementError.emptyUid pod.ns pod.name).message), registry)
    else
      match admission registry policy pod.uid with
      | .error e =>
        (.error (failed s!"failed to get policy info of {policy.ns}/{policy.name}: {e.message}"),
          (rosterOf registry policy).2)
      | .ok joined =>
        match policy.mode with
        | .strict =>
          (outcome pod nodes (.committed ⟨policy, joined, pod.uid⟩)
              (.committed ⟨policy, joined, pod.uid⟩),
            Namespaced.insert registry policy.ns policy.name joined)
        | .bestEffort =>
          (outcome pod nodes (.chosen ⟨policy, joined, pod.uid⟩)
              (.committed ⟨policy, joined, pod.uid⟩),
            if nodes = [] then (rosterOf registry policy).2
            else Namespaced.insert registry policy.ns policy.name joined)

/-- Which policy is only chosen so far makes no difference to an outcome. -/
theorem outcome_chosen (pod : Pod) (nodes : List Node) (decision other : Decision)
    (scored : Stage) :
    outcome pod nodes (.chosen decision) scored = outcome pod nodes (.chosen other) scored := by
  simp only [outcome, possible_chosen]

/-- Where a roster is not given, nobody is admitted, for the same reason. -/
theorem admission_of_rosterOf {policy : Policy} {e : PlacementError}
    (h : (rosterOf registry policy).1 = .error e) (key : String) :
    admission registry policy key = .error e := by
  rw [rosterOf_eq] at h
  simp only at h
  rw [admission, h]
  rfl

/-- What an attempt does is its conclusion. -/
theorem Attempted.eq_conclusion (h : Attempted view pod nodes registry result after) :
    (result, after) = conclusion (view.policyFor pod) pod nodes registry := by
  cases h with
  | unread found => simp only [conclusion, found]
  | ungoverned found => simp only [conclusion, found]
  | keyless found hu => simp only [conclusion, found, if_pos hu]
  | malformed found hu fails =>
    simp only [conclusion, found, if_neg hu, admission_of_rosterOf fails]
  | enforced found hu mode admitted =>
    simp only [conclusion, found, if_neg hu, admitted, mode]
  | @deserted policy roster found hu mode given empty =>
    obtain ⟨joined, admitted⟩ :=
      exists_admission (exists_rosterOf_iff.mp ⟨roster, given⟩) registry pod.uid
    simp only [conclusion, found, if_neg hu, admitted, mode, empty, if_pos]
    rfl
  | ranked found hu mode some_node admitted =>
    simp only [conclusion, found, if_neg hu, admitted, mode, if_neg some_node]
    exact Prod.ext (outcome_chosen ..) rfl

/-- **What scheduling does**, in one equation. -/
theorem schedule_eq (view : View) (pod : Pod) (nodes : List Node) (desk : Desk)
    (sound : desk.registry.Sound) :
    ((Host.schedule (plugin view) pod nodes desk).1,
        (Host.schedule (plugin view) pod nodes desk).2.registry) =
      conclusion (view.policyFor pod) pod nodes desk.registry :=
  (schedule_spec view pod nodes desk sound).eq_conclusion

end Steering

namespace Session

variable {s : Session}

/-- An attempt in a session answers its conclusion, and leaves its registry. -/
theorem step_schedule (h : s.Reachable) (pod : Pod) (nodes : List Node) :
    (s.step (.schedule pod nodes)).1 =
        .scheduled (Steering.conclusion (s.view.policyFor pod) pod nodes s.registry).1 ∧
      (s.step (.schedule pod nodes)).2.1.registry =
        (Steering.conclusion (s.view.policyFor pod) pod nodes s.registry).2 := by
  have concluded := Steering.schedule_eq s.view pod nodes s.desk h.sound
  obtain ⟨result, registry⟩ := Prod.mk.inj concluded
  exact ⟨congrArg Answer.scheduled result, registry⟩

end Session

end Placement
