import Placement.Proofs.Sides
import Placement.Proofs.Verdicts

/-!
# A chosen policy is committed as it is now

Between the look at a pod and the look at the possible nodes the policy that was chosen may be
edited or dropped, and its roster may be changed by other attempts.  The pod comes under the policy
as the catalog holds it then, and onto the roster as the registry holds it then: nothing of what
was true when the policy was chosen is left but its name.

## Main definitions

* `Registry.Commits` — a pod comes under a policy, and nothing else changes.

The main statement is `Session.preScore_commits`.
-/

namespace Placement

open Placement.Membership

/-! ## Coming under a policy -/

namespace Registry

/-- A pod comes under a policy: the entry of the policy takes on its action and target, keeps its
pods and their sides, and the pod is on it too.  A newcomer is claimed as long as the target, with
the newcomer counted in, asks for more pods than were claimed.  No other entry changes. -/
structure Commits (before : Registry) (policy : Policy) (key : String) (after : Registry)
    (entry : Roster) : Prop where
  there : after.get? policy.ns policy.name = some entry
  action : entry.action = policy.action
  target : entry.target = policy.target
  members : ∀ k, k ∈ entry.qualified ↔ k = key ∨ (policy.ns, policy.name, k) ∈ before.memberships
  sides : ∀ k, (policy.ns, policy.name, k) ∈ before.memberships →
    entry.manages k = before.claims policy.ns policy.name k
  newcomer : (policy.ns, policy.name, key) ∉ before.memberships →
    ∃ wanted, entry.required entry.qualified.size = .ok wanted ∧
      entry.manages key = decide ((stored before policy).managed.size < wanted)
  subset : ∀ k ∈ entry.managed, k ∈ entry.qualified
  met : ∃ wanted, entry.required entry.qualified.size = .ok wanted ∧
    entry.targetMet = decide (wanted ≤ entry.managed.size)
  others : ∀ ns name, ¬(policy.ns = ns ∧ policy.name = name) →
    after.get? ns name = before.get? ns name

variable {before after : Registry} {policy : Policy} {key : String} {entry : Roster}

/-- The entry tells whom the policy claims afterwards. -/
theorem Commits.claims_eq (h : before.Commits policy key after entry) (k : String) :
    after.claims policy.ns policy.name k = entry.manages k := by
  rw [claims, h.there, Option.any_some]

/-- An admission leaves those who were on record on their side. -/
theorem manages_admission_of_mem {k : String} (h : admission before policy key = .ok entry)
    (there : (policy.ns, policy.name, k) ∈ before.memberships) :
    entry.manages k = before.claims policy.ns policy.name k := by
  have stays : (policy.ns, policy.name, k) ∈
      Registry.memberships (Namespaced.insert before policy.ns policy.name entry) := by
    rw [memberships_admission h]
    exact Set.mem_insert_of_mem _ there
  rw [← KeepsSides.admission h _ _ _ there stays, claims_insert, if_pos ⟨rfl, rfl⟩]

/-- A newcomer is claimed as long as the target, with it counted in, asks for more pods than were
claimed. -/
theorem manages_admission_of_not_mem (sound : before.Sound)
    (h : admission before policy key = .ok entry)
    (new : (policy.ns, policy.name, key) ∉ before.memberships) :
    ∃ wanted, entry.required entry.qualified.size = .ok wanted ∧
      entry.manages key = decide ((stored before policy).managed.size < wanted) := by
  have absent : key ∉ (stored before policy).qualified := fun there => new (mem_stored.mp there)
  have consistent := (obtainable_stored sound policy).consistent
  obtain ⟨now, wanted, hwanted, rfl⟩ := admission_of_not_mem h absent
  generalize base_eq : (stored before policy).respecified policy.action policy.target now = base
  have absent' : key ∉ base.qualified := base_eq ▸ absent
  have unclaimed : key ∉ base.managed := base_eq ▸ consistent.unclaimed_of_absent absent
  refine ⟨wanted, ?_, ?_⟩
  · rw [Roster.size_qualified_accept absent', ← base_eq]
    exact hwanted
  · rw [Roster.manages_accept unclaimed, ← base_eq]
    exact (decide_not ..).symm.trans (decide_eq_decide.mpr Int.not_le)

/-- **Coming under a policy is an admission to its roster.** -/
theorem commits_of_admission (sound : before.Sound)
    (h : admission before policy key = .ok entry) :
    before.Commits policy key (Namespaced.insert before policy.ns policy.name entry) entry := by
  obtain ⟨action, target, members⟩ := admission_frame h
  have consistent := (obtainable_admission sound h).consistent
  have wf : entry.target.WellFormed := by
    rw [target]
    exact wellFormed_of_admission h
  constructor
  case there => simp [Namespaced.get?_insert]
  case action => exact action
  case target => exact target
  case members => exact members
  case sides => exact fun k there => manages_admission_of_mem h there
  case newcomer => exact manages_admission_of_not_mem sound h
  case subset => exact consistent.managed_subset
  case met => exact consistent.met wf
  case others =>
    intro ns name other
    rw [Namespaced.get?_insert, if_neg other]

end Registry

/-! ## Looking at the possible nodes -/

namespace Session

variable {s : Session} {cycle : String} {pod looked : Pod} {decision : Decision} {policy : Policy}

/-- An attempt goes on until it is restarted. -/
theorem Attempting.run (h : Attempting cycle pod s) (commands : List Command)
    (goesOn : ∀ command ∈ commands, ¬command.Restarts cycle) :
    Attempting cycle pod (s.run commands) := by
  induction commands generalizing s with
  | nil => exact h
  | cons command rest ih =>
    obtain ⟨first, others⟩ := List.forall_mem_cons.mp goesOn
    exact ih (h.goOn command first) others

/-- A pod whose policy is still there comes under it as it is now. -/
theorem preScore_of_present (reached : s.Reachable)
    (chosen : s.stage? cycle = some (.chosen decision))
    (found : Steering.present? s.view pod decision = .ok (some policy)) (hu : pod.uid ≠ "")
    (wf : policy.target.WellFormed) :
    ∃ entry, (s.step (.preScore cycle pod)).1 = .status .success ∧
      admission s.registry policy pod.uid = .ok entry ∧
      (s.step (.preScore cycle pod)).2.1.registry =
        Namespaced.insert s.registry policy.ns policy.name entry ∧
      (s.step (.preScore cycle pod)).2.1.stage? cycle =
        some (.committed ⟨policy, entry, decision.key⟩) := by
  obtain ⟨roster, given⟩ : ∃ roster, (rosterOf s.registry policy).1 = .ok roster :=
    exists_rosterOf_iff.mpr wf
  obtain ⟨entry, desk, result, joins⟩ :=
    Steering.preScore_of_present s.desk chosen found hu given
  obtain ⟨admitted, registry⟩ := Steering.admission_of_join reached.sound hu given joins
  refine ⟨entry, ?_, admitted, ?_, ?_⟩
  · exact congrArg (fun r => Answer.status r.1) result
  · exact (congrArg (fun r => r.2.2.registry) result).trans registry
  · rw [stage?_preScore, result]
    exact Steering.stage?_setStage ..

/-- A pod whose policy is gone is as one that no policy governs. -/
theorem preScore_of_lapsed (chosen : s.stage? cycle = some (.chosen decision))
    (gone : Steering.present? s.view pod decision = .ok none) :
    (s.step (.preScore cycle pod)).1 = .status .success ∧
      (s.step (.preScore cycle pod)).2.1.registry = s.registry ∧
      (s.step (.preScore cycle pod)).2.1.stage? cycle = some .ungoverned := by
  have stage : Steering.stage? (s.cycle cycle) = some (.chosen decision) := chosen
  have result : Steering.preScore s.view pod (s.cycle cycle) s.desk =
      (.success, Steering.setStage (s.cycle cycle) .ungoverned,
        s.desk.note (.lapsed pod decision.policy.ns decision.policy.name)) := by
    simp only [Steering.preScore, stage, gone]
  refine ⟨?_, ?_, ?_⟩
  · exact congrArg (fun r => Answer.status r.1) result
  · exact congrArg (fun r => r.2.2.registry) result
  · rw [stage?_preScore, result]
    exact Steering.stage?_setStage ..

/-- A committed pod belongs on a node exactly if the policy selects the node and the roster claims
the pod, or neither. -/
theorem agrees_eq (policy : Policy) (entry : Roster) (key : String) (node : Node) :
    Decision.agrees ⟨policy, entry, key⟩ node =
      decide (node.labels.Includes policy.nodeSelector ↔ entry.manages key = true) := by
  rw [Bool.eq_iff_iff, decide_eq_true_iff, ← Labels.satisfies_iff, ← Bool.eq_iff_iff]
  exact beq_iff_eq

/-- **A chosen policy is committed as it is now.**  An attempt was begun for a pod and has only
chosen a policy so far.  While the catalog can be read, looking at the possible nodes succeeds in
two cases, also for a pod that has got other labels in between.  If the catalog has a policy of the
chosen name that selects the pod, with a target that can be computed, the pod comes under that
policy, and from then on nodes are judged by its node selector and by whether its roster claims the
pod.  If the catalog has none that selects the pod, the registry stays as it is, every node passes,
and every score is zero. -/
theorem preScore_commits (attempting : Attempting cycle looked s) (same : pod.uid = looked.uid)
    (readable : s.view.outage = none) (chosen : s.stage? cycle = some (.chosen decision)) :
    let before := s.view.catalog.policy? decision.policy.ns decision.policy.name
    let answer := (s.step (.preScore cycle pod)).1
    let now := (s.step (.preScore cycle pod)).2.1
    (∀ policy, before = some policy → pod.labels.Includes policy.podSelector →
      policy.target.WellFormed →
        answer = .status .success ∧
          policy.ns = decision.policy.ns ∧ policy.name = decision.policy.name ∧
          ∃ entry, s.registry.Commits policy pod.uid now.registry entry ∧
            ∀ (later : List Command) (node : Node),
              (∀ command ∈ later, ¬command.Restarts cycle) →
                (now.run later).Judges cycle pod node
                  (decide (node.labels.Includes policy.nodeSelector ↔
                    entry.manages pod.uid = true))) ∧
      ((∀ policy, before = some policy → ¬pod.labels.Includes policy.podSelector) →
        answer = .status .success ∧ now.registry = s.registry ∧
          ∀ (later : List Command) (node : Node),
            (∀ command ∈ later, ¬command.Restarts cycle) →
              ((now.run later).step (.filter cycle pod node)).1 = .status .success ∧
                ((now.run later).step (.score cycle pod node)).1 = .scored 0 .success) := by
  intro before answer now
  have decided : s.decision? cycle = some decision := by
    rw [decision?, chosen]
    rfl
  obtain ⟨key, hu⟩ := attempting.keyed decided
  rw [← same] at key hu
  refine ⟨fun policy there included wf => ?_, fun none_left => ?_⟩
  · have found : Steering.present? s.view pod decision = .ok (some policy) :=
      Steering.present?_eq_ok_iff.mpr
        ⟨readable, Option.filter_eq_some_iff.mpr ⟨there, selects_iff.mpr included⟩⟩
    obtain ⟨sameNs, sameName⟩ := Steering.present?_named found
    obtain ⟨entry, success, admitted, registry, joined⟩ :=
      preScore_of_present attempting.reachable chosen found hu wf
    have commits := Registry.commits_of_admission attempting.reachable.sound admitted
    refine ⟨success, sameNs, sameName, entry, registry ▸ commits, fun later node goesOn => ?_⟩
    have stays := stage?_run joined later goesOn
    rw [← key, ← agrees_eq]
    exact judges_of_committed stays pod node
  · have gone : Steering.present? s.view pod decision = .ok none := by
      refine Steering.present?_eq_ok_iff.mpr ⟨readable, ?_⟩
      rw [Option.filter_eq_none_iff]
      exact fun policy there selects => none_left policy there (selects_iff.mp selects)
    obtain ⟨success, registry, ungoverned⟩ := preScore_of_lapsed chosen gone
    refine ⟨success, registry, fun later node goesOn => ?_⟩
    have stays := stage?_run_of_ready ungoverned (by simp) later goesOn
    rw [answer_filter, answer_score, stays]
    exact ⟨rfl, rfl⟩

end Session

/-! ## A policy that is edited, and one that goes -/

namespace Shop

/-- A batch pod is looked at, and its policy is chosen. -/
def considered : Session :=
  ((Session.run {} opening).step (.preFilter "first" (pod "u" "batch"))).2.1

/-- All batch pods are better off on the edge now. -/
def moved : Policy :=
  { batch with action := .must, target := .text "100%" }

/-- Another batch pod comes under the policy, which is edited then. -/
def edits : List Session.Command :=
  [.schedule (pod "v" "batch") [edge, core], .catalog (.upsertPolicy moved)]

/-- The policy goes. -/
def removal : List Session.Command :=
  [.catalog (.deletePolicy "shop" "batch")]

theorem attempting_considered : Session.Attempting "first" (pod "u" "batch") considered :=
  .begin (Session.Reachable.start.run opening) (by decide +kernel)

/-- What is decided for the pod when it is looked at. -/
def decisionBatch : Decision where
  policy := batch
  roster := Roster.new "shop" "batch" .mustNot (.text "50%")
  key := "u"

/-- The pod is committed under the edited policy, with the other pod on the roster, and belongs on
the edge; where the policy is gone, nothing is committed. -/
theorem preScore_commits_batch :
    let look := Session.Command.preScore "first" (pod "u" "batch")
    (∃ entry, (considered.run edits).registry.Commits moved "u"
        ((considered.run edits).step look).2.1.registry entry ∧ "v" ∈ entry.qualified) ∧
      ((considered.run edits).step look).2.1.Judges "first" (pod "u" "batch") edge true ∧
      ((considered.run removal).step look).2.1.registry = (considered.run removal).registry ∧
      (((considered.run removal).step look).2.1.step (.score "first" (pod "u" "batch") edge)).1 =
        .scored 0 .success := by
  intro look
  have edited : ∀ command ∈ edits, ¬command.Restarts "first" := by
    simp [edits, Session.Command.Restarts]
  have removed : ∀ command ∈ removal, ¬command.Restarts "first" := by
    simp [removal, Session.Command.Restarts]
  have chosen : (considered.run edits).stage? "first" = some (.chosen decisionBatch) := by
    decide +kernel
  have chosen' : (considered.run removal).stage? "first" = some (.chosen decisionBatch) := by
    decide +kernel
  obtain ⟨commits, -⟩ := Session.preScore_commits
    (attempting_considered.run edits edited) rfl (by decide +kernel) chosen
  obtain ⟨-, lapses⟩ := Session.preScore_commits
    (attempting_considered.run removal removed) rfl (by decide +kernel) chosen'
  have there : (considered.run edits).view.catalog.policy? "shop" "batch" = some moved := by
    decide +kernel
  have gone : (considered.run removal).view.catalog.policy? "shop" "batch" = none := by
    decide +kernel
  obtain ⟨-, -, -, entry, committed, judges⟩ :=
    commits moved there (by decide +kernel) (by decide +kernel)
  obtain ⟨-, unchanged, idle⟩ := lapses fun policy found =>
    absurd (found.symm.trans gone) (Option.some_ne_none policy)
  have other : ("shop", "batch", "v") ∈ (considered.run edits).registry.memberships := by
    decide +kernel
  have claimed : entry.manages "u" = true := by
    rw [← committed.claims_eq]
    decide +kernel
  have right : decide (edge.labels.Includes moved.nodeSelector ↔ entry.manages "u" = true) = true :=
    decide_eq_true (iff_of_true (by decide +kernel) claimed)
  have at_once := List.forall_mem_nil fun command => ¬Session.Command.Restarts "first" command
  exact ⟨⟨entry, committed, (committed.members "v").mpr (.inr other)⟩,
    right ▸ judges [] edge at_once, unchanged, (idle [] edge at_once).2⟩

end Shop

end Placement
