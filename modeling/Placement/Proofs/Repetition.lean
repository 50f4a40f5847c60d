import Placement.Proofs.Conclusion

/-!
# Trying again

An attempt to place a pod may enter the roster of a policy, give it another action and target,
and put the pod on it, or stop after a part of that.  When the same attempt is made again it
finds the roster there, with that body, and the pod on it, and goes other ways than before.
It ends the same all the same, and leaves everything as it is.

The main statements are `Roster.respecify_enlisted` on rosters, `Membership.admission_again`
and `Steering.conclusion_again` on registries, and `Session.schedule_again` on sessions.
-/

namespace Placement

open Placement.Membership

/-! ## Rosters -/

namespace Roster

variable {r base joined : Roster} {key : String} {action : Action} {target : TargetSize}

/-- **A roster that was given a body and then took in a pod does not change when it is given
that body again.** -/
theorem respecify_enlisted (given : r.respecify action target = .ok base)
    (took : base.enlist key = .ok joined) : joined.respecify action target = .ok joined := by
  obtain ⟨now, hnow, rfl⟩ := respecify_eq_ok given
  obtain ⟨_, rfl⟩ | ⟨absent, wanted, hwanted, rfl⟩ := enlist_eq_ok took
  · -- The pod was there, so that the same number is required of the same pods.
    have again : target.required (r.respecified action target now).qualified.size action =
        .ok now := hnow
    rw [respecify_eq, again]
    rfl
  · -- The newcomer was counted in already when it was decided whether to claim it.
    have again : target.required
        ((r.respecified action target now).accept key wanted).qualified.size action =
          .ok wanted := by
      rw [size_qualified_accept absent]
      exact hwanted
    rw [respecify_eq, again]
    rfl

end Roster

/-! ## Registries -/

namespace Membership

variable {registry : Registry} {policy : Policy} {key : String} {joined : Roster}

/-- **A pod that has come under a policy comes under it with the same roster again.** -/
theorem admission_again (h : admission registry policy key = .ok joined) :
    admission (Namespaced.insert registry policy.ns policy.name joined) policy key =
      .ok joined := by
  obtain ⟨now, hnow, took⟩ := admission_eq_ok h
  have given : (stored registry policy).respecify policy.action policy.target =
      .ok ((stored registry policy).respecified policy.action policy.target now) := by
    rw [Roster.respecify_eq, hnow]
    rfl
  have present : key ∈ joined.qualified :=
    ((Roster.enlist_frame took).2.2.2.2 key).mpr (.inl rfl)
  rw [admission, stored_insert, Roster.respecify_enlisted given took]
  exact Roster.enlist_of_mem present

/-- Asking for the roster of a policy makes no difference to who comes under it and how. -/
theorem admission_rosterOf (registry : Registry) (policy : Policy) (key : String) :
    admission (rosterOf registry policy).2 policy key = admission registry policy key := by
  rw [admission, admission, stored_rosterOf]

end Membership

/-! ## Attempts -/

namespace Steering

/-- **What an attempt concludes it concludes again**, and then leaves the registry alone. -/
theorem conclusion_again (governs : Except PlacementError (Option Policy)) (pod : Pod)
    (nodes : List Node) (registry : Registry) :
    conclusion governs pod nodes (conclusion governs pod nodes registry).2 =
      conclusion governs pod nodes registry := by
  cases governs with
  | error e => rfl
  | ok policy? =>
    cases policy? with
    | none => rfl
    | some policy =>
      by_cases hu : pod.uid = ""
      · simp only [conclusion, if_pos hu]
      simp only [conclusion, if_neg hu]
      cases admitted : admission registry policy pod.uid with
      | error e => simp only [admission_rosterOf, admitted, rosterOf_rosterOf]
      | ok joined =>
        have settled := admission_again admitted
        cases policy.mode with
        | strict => simp only [settled, Namespaced.insert_insert]
        | bestEffort =>
          by_cases empty : nodes = []
          · simp only [if_pos empty, admission_rosterOf, admitted, rosterOf_rosterOf]
          · simp only [if_neg empty, settled, Namespaced.insert_insert]

end Steering

/-! ## Sessions -/

namespace Session

variable {s : Session}

/-- **Trying twice is trying once.**  In every session that commands lead to, an attempt to
place a pod that is made twice in a row has the same outcome both times, be it an assignment
or a failure, and the second one leaves the session exactly as the first one left it. -/
theorem schedule_again (h : s.Reachable) (pod : Pod) (nodes : List Node) :
    ((s.step (.schedule pod nodes)).2.1.step (.schedule pod nodes)).1 =
        (s.step (.schedule pod nodes)).1 ∧
      ((s.step (.schedule pod nodes)).2.1.step (.schedule pod nodes)).2.1 =
        (s.step (.schedule pod nodes)).2.1 := by
  obtain ⟨first, left⟩ := step_schedule h pod nodes
  obtain ⟨second, left'⟩ := step_schedule (h.step (.schedule pod nodes)) pod nodes
  have view : (s.step (.schedule pod nodes)).2.1.view = s.view := rfl
  rw [view, left, Steering.conclusion_again] at second left'
  refine ⟨second.trans first.symm, ?_⟩
  -- An attempt changes nothing of a session but its rosters.
  have rosters := left'.trans left.symm
  generalize (s.step (.schedule pod nodes)).2.1 = after at rosters ⊢
  show after.take _ = after
  exact congrArg (fun registry => { after with registry := registry }) rosters

end Session

/-! ## A policy edited in between -/

namespace Shop

/-- A batch pod is placed under the policy for batch pods, which then asks for none of them. -/
def relaxed : List Session.Command :=
  opening ++ [.schedule (pod "u" "batch") [edge, core],
    .catalog (.updatePolicy "shop" "batch" { batch with target := .text "100%" })]

/-- The next batch pod is to be placed. -/
def newcomer : Session.Command :=
  .schedule (pod "v" "batch") [edge, core]

/-- The first time its attempt gives the roster the new target and puts it on; the second time
it is there.  It goes off the edge both times. -/
theorem again_relaxed :
    ((Session.run {} relaxed).step newcomer).1 =
        .scheduled (.ok ⟨"pod-v", "core", [⟨"edge", 0⟩, ⟨"core", 100⟩]⟩) ∧
      (((Session.run {} relaxed).step newcomer).2.1.step newcomer).1 =
        .scheduled (.ok ⟨"pod-v", "core", [⟨"edge", 0⟩, ⟨"core", 100⟩]⟩) ∧
      (((Session.run {} relaxed).step newcomer).2.1.step newcomer).2.1 =
        ((Session.run {} relaxed).step newcomer).2.1 := by
  have reached : (Session.run {} relaxed).Reachable := Session.Reachable.start.run relaxed
  have concluded : (Steering.conclusion ((Session.run {} relaxed).view.policyFor (pod "v" "batch"))
      (pod "v" "batch") [edge, core] (Session.run {} relaxed).registry).1 =
        .ok ⟨"pod-v", "core", [⟨"edge", 0⟩, ⟨"core", 100⟩]⟩ := by
    decide +kernel
  have first := (Session.step_schedule reached (pod "v" "batch") [edge, core]).1
  rw [concluded] at first
  obtain ⟨second, left⟩ := Session.schedule_again reached (pod "v" "batch") [edge, core]
  exact ⟨first, second.trans first, left⟩

end Shop

end Placement
