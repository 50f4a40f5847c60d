import Mathlib.Data.List.Nodup
import Placement.Proofs.Scoring
import Placement.Proofs.Session

/-!
# The ratio of a policy

When pods that a policy governs are scheduled one after the other, and each can go to a
node that the policy selects as well as to one that it does not, then as many of them go to
selected nodes as the target asks for, or as many as there are.

## Main definitions

* `Session.Decides` — an attempt that a policy can decide either way.
* `Session.landed` — how many attempts place their pod on a selected node.
* `Session.Filled` — a policy has claimed as many of its pods as its target asks for.

The invariant is `Filled`: `Filled.step` says that an attempt keeps it, `Filled.run` that a
run of attempts does.  The main statement is `Session.landed_eq_required`.
-/

namespace Placement

open Placement.Membership

variable {s : Session} {policy : Policy} {call : Pod × List Node} {n : Nat}

namespace Session

/-- The attempts to place pods, each on one of its nodes. -/
def schedules (calls : List (Pod × List Node)) : List Command :=
  calls.map fun call => .schedule call.1 call.2

/-- Whether an answer places a pod on one of the nodes that a policy selects. -/
def Answer.lands (policy : Policy) (nodes : List Node) : Answer → Bool
  | .scheduled (.ok a) =>
    nodes.any fun node => node.name == a.node && node.labels.satisfies policy.nodeSelector
  | _ => false

/-- How many of the attempts place their pod on a node that the policy selects. -/
def landed (s : Session) (policy : Policy) (calls : List (Pod × List Node)) : Nat :=
  (calls.zip (s.answers (schedules calls))).countP fun (call, answer) =>
    answer.lands policy call.2

/-- An attempt that a policy can decide either way: the pod has an identifier and is governed
by the policy, and of the nodes, whose names differ, the policy selects some but not all. -/
structure Decides (view : View) (policy : Policy) (call : Pod × List Node) : Prop where
  keyed : call.1.uid ≠ ""
  governed : view.policyFor call.1 = .ok (some policy)
  distinct : (call.2.map (·.name)).Nodup
  selected : ∃ node ∈ call.2, node.labels.satisfies policy.nodeSelector = true
  unselected : ∃ node ∈ call.2, node.labels.satisfies policy.nodeSelector = false

/-- Some node is on the right side for the pod, wherever that is. -/
theorem Decides.exists_right {view : View} (d : Decides view policy call) (roster : Roster)
    (key : String) : ∃ node ∈ call.2, (Decision.mk policy roster key).agrees node = true := by
  cases claimed : (Decision.mk policy roster key).managed with
  | true =>
    obtain ⟨node, there, selected⟩ := d.selected
    exact ⟨node, there, by simp [Decision.agrees, Decision.selects, claimed, selected]⟩
  | false =>
    obtain ⟨node, there, unselected⟩ := d.unselected
    exact ⟨node, there, by simp [Decision.agrees, Decision.selects, claimed, unselected]⟩

/-- Where the names of nodes differ, the chosen name tells which node it is. -/
theorem lands_eq {nodes : List Node} (distinct : (nodes.map (·.name)).Nodup) {node : Node}
    (there : node ∈ nodes) {a : Assignment} (chosen : node.name = a.node) :
    (Answer.scheduled (.ok a)).lands policy nodes = node.labels.satisfies policy.nodeSelector := by
  have only (other : Node) (h : other ∈ nodes) (same : other.name = a.node) : other = node :=
    List.inj_on_of_nodup_map distinct h there (same.trans chosen.symm)
  rw [Answer.lands, Bool.eq_iff_iff, List.any_eq_true]
  constructor
  · rintro ⟨other, h, lands⟩
    obtain ⟨same, satisfied⟩ := Bool.and_eq_true_iff.mp lands
    obtain rfl := only other h (by simpa using same)
    exact satisfied
  · intro satisfied
    exact ⟨node, there, by simp [chosen, satisfied]⟩

/-- A pod that has joined lands on the selected nodes exactly when it is claimed. -/
theorem Decides.outcome {view : View} (d : Decides view policy call) (judged : Stage)
    (roster : Roster) (key : String)
    (lets : ∀ node ∈ call.2, (Decision.mk policy roster key).agrees node = true →
      node ∈ Steering.possible (some judged) call.2) :
    ∃ a, Steering.outcome call.1 call.2 judged (.committed ⟨policy, roster, key⟩) = .ok a ∧
      (Answer.scheduled (.ok a)).lands policy call.2 = roster.manages key := by
  obtain ⟨right, there, agrees⟩ := d.exists_right roster key
  obtain ⟨a, placed, node, there', chosen, agrees'⟩ :=
    Steering.outcome_agrees call.1 (lets right there agrees) agrees
  refine ⟨a, placed, ?_⟩
  rw [lands_eq d.distinct there' chosen]
  simpa [Decision.agrees, Decision.selects, Decision.managed] using agrees'

/-- **An attempt that a policy can decide admits the pod and puts it on the right side.** -/
theorem Decides.attempted {view : View} (d : Decides view policy call)
    (wf : policy.target.WellFormed) {registry after : Registry} {result : Except Status Assignment}
    (h : Steering.Attempted view call.1 call.2 registry result after) :
    ∃ joined a, admission registry policy call.1.uid = .ok joined ∧
      after = Namespaced.insert registry policy.ns policy.name joined ∧ result = .ok a ∧
      (Answer.scheduled (.ok a)).lands policy call.2 = joined.manages call.1.uid := by
  -- No other policy can have been found.
  have only {other : Policy} (found : view.policyFor call.1 = .ok (some other)) :
      policy = other :=
    Option.some.inj (Except.ok.inj (d.governed.symm.trans found))
  cases h with
  | unread found => cases d.governed.symm.trans found
  | ungoverned found => cases d.governed.symm.trans found
  | keyless found hu => exact absurd hu d.keyed
  | malformed found hu fails =>
    obtain rfl := only found
    exact absurd wf (not_wellFormed_of_rosterOf fails)
  | deserted found hu mode given empty =>
    obtain ⟨node, there, _⟩ := d.selected
    rw [empty] at there
    cases there
  | @enforced _ joined found hu mode admitted =>
    obtain rfl := only found
    obtain ⟨a, placed, lands⟩ := d.outcome (.committed ⟨policy, joined, call.1.uid⟩) joined
      call.1.uid fun node there agrees =>
        List.mem_filter.mpr ⟨there, by simp [Steering.verdict, agrees]⟩
    exact ⟨joined, a, admitted, rfl, placed, lands⟩
  | @ranked _ roster joined found hu mode some_node admitted =>
    obtain rfl := only found
    obtain ⟨a, placed, lands⟩ := d.outcome (.chosen ⟨policy, roster, call.1.uid⟩) joined
      call.1.uid fun node there _ => by simpa using there
    exact ⟨joined, a, admitted, rfl, placed, lands⟩

/-! ## One attempt -/

/-- The roster of a policy in a session. -/
def rosterFor (s : Session) (policy : Policy) : Roster := stored s.registry policy

/-- A policy has `n` pods on record, and has claimed as many of them as its target asks for,
brought between none and all of them. -/
structure Filled (s : Session) (policy : Policy) (n : Nat) : Prop where
  reachable : s.Reachable
  size : (s.rosterFor policy).qualified.size = n
  claimed : ∀ wanted, policy.target.required n policy.action = .ok wanted →
    ((s.rosterFor policy).managed.size : Int) = TargetSize.filled n wanted

/-- A policy that has no pods has claimed as many as its target asks for. -/
theorem Filled.start (h : s.Reachable)
    (untracked : ∀ key, (policy.ns, policy.name, key) ∉ s.registry.memberships) :
    Filled s policy 0 := by
  have nobody : ∀ key, key ∉ (s.rosterFor policy).qualified := by
    intro key there
    exact untracked key (mem_onRecord.mp there)
  have consistent : (s.rosterFor policy).Consistent :=
    (obtainable_stored h.sound policy).consistent
  have qualified : (s.rosterFor policy).qualified = ∅ :=
    Std.ExtTreeSet.ext_mem fun key => by simp [nobody key]
  have managed : (s.rosterFor policy).managed = ∅ :=
    Std.ExtTreeSet.ext_mem fun key => by
      simpa using fun there => nobody key (consistent.managed_subset key there)
  refine ⟨h, by rw [qualified]; rfl, fun wanted _ => ?_⟩
  rw [managed, TargetSize.filled]
  simp

/-- A policy that has claimed as many of its pods as required has done so when one more has
joined. -/
theorem filled_accept {r : Roster} {key : String} {wanted next : Int}
    (hw : policy.target.required n policy.action = .ok wanted)
    (hnext : policy.target.required (n + 1) policy.action = .ok next)
    (claimed : (r.managed.size : Int) = TargetSize.filled n wanted) (unclaimed : key ∉ r.managed) :
    ((r.accept key next).managed.size : Int) = TargetSize.filled (n + 1) next := by
  have paced : TargetSize.Paced n wanted next := TargetSize.paced_required hw hnext
  rw [Roster.size_managed_accept_eq unclaimed, TargetSize.filled_succ paced, ← claimed]
  by_cases reached : next ≤ r.managed.size
  · rw [if_pos reached, if_pos reached]
  · rw [if_neg reached, if_neg reached, Int.natCast_succ]

/-- **An attempt keeps the policy filled**, and one pod more is claimed when it lands on a
selected node. -/
theorem Filled.step (f : Filled s policy n) (wf : policy.target.WellFormed)
    (d : Decides s.view policy call) (absent : call.1.uid ∉ (s.rosterFor policy).qualified) :
    ∃ a after log, s.step (.schedule call.1 call.2) = (.scheduled (.ok a), after, log) ∧
      Filled after policy (n + 1) ∧ after.view = s.view ∧
      (after.rosterFor policy).managed.size = (s.rosterFor policy).managed.size +
        (if (Answer.scheduled (.ok a)).lands policy call.2 then 1 else 0) ∧
      ∀ key, key ∈ (after.rosterFor policy).qualified ↔
        key = call.1.uid ∨ key ∈ (s.rosterFor policy).qualified := by
  obtain ⟨joined, a, admitted, registry, placed, lands⟩ :=
    d.attempted wf (Steering.schedule_spec s.view call.1 call.2 s.desk f.reachable.sound)
  refine ⟨a, (s.step (.schedule call.1 call.2)).2.1, (s.step (.schedule call.1 call.2)).2.2,
    Prod.ext (congrArg Answer.scheduled placed) rfl, ?_⟩
  have now : (s.step (.schedule call.1 call.2)).2.1.rosterFor policy = joined := by
    have after : (s.step (.schedule call.1 call.2)).2.1.registry =
      Namespaced.insert s.registry policy.ns policy.name joined := registry
    rw [rosterFor, after, stored_insert]
  have reached := f.reachable.step (.schedule call.1 call.2)
  have view : (s.step (.schedule call.1 call.2)).2.1.view = s.view := rfl
  generalize (s.step (.schedule call.1 call.2)).2.1 = after at now reached view
  obtain ⟨before, next, hnext, rfl⟩ := admission_of_not_mem admitted absent
  have fresh : call.1.uid ∉
      ((stored s.registry policy).respecified policy.action policy.target before).qualified :=
    absent
  have unclaimed : call.1.uid ∉ (s.rosterFor policy).managed :=
    (obtainable_stored f.reachable.sound policy).consistent.unclaimed_of_absent absent
  have size : (stored s.registry policy).qualified.size = n := f.size
  refine ⟨⟨reached, ?_, ?_⟩, view, ?_, ?_⟩
  · rw [now]
    exact (Roster.size_qualified_accept fresh).trans (congrArg (· + 1) size)
  · intro wanted hw
    rw [show s.desk.registry = s.registry from rfl, size, hw] at hnext
    obtain rfl := Except.ok.inj hnext
    obtain ⟨earlier, hearlier⟩ := TargetSize.exists_required wf n policy.action
    rw [now]
    exact filled_accept hearlier hw (f.claimed earlier hearlier) unclaimed
  · rw [now, lands]
    exact Roster.size_managed_accept unclaimed
  · intro key
    rw [now, Roster.mem_qualified_accept]
    rfl

/-! ## A run of attempts -/

/-- **A run of attempts keeps the policy filled**, and claims as many pods as land on
selected nodes. -/
theorem Filled.run (wf : policy.target.WellFormed) (calls : List (Pod × List Node))
    (distinct : (calls.map (·.1.uid)).Nodup) (f : Filled s policy n)
    (decides : ∀ call ∈ calls, Decides s.view policy call)
    (absent : ∀ call ∈ calls, call.1.uid ∉ (s.rosterFor policy).qualified) :
    (∀ answer ∈ s.answers (schedules calls), ∃ a, answer = .scheduled (.ok a)) ∧
      Filled (s.run (schedules calls)) policy (n + calls.length) ∧
      ((s.run (schedules calls)).rosterFor policy).managed.size =
        (s.rosterFor policy).managed.size + s.landed policy calls := by
  induction calls generalizing s n with
  | nil => exact ⟨by simp [schedules, answers], f, rfl⟩
  | cons call rest ih =>
    obtain ⟨d, others⟩ := List.forall_mem_cons.mp decides
    obtain ⟨here, elsewhere⟩ := List.forall_mem_cons.mp absent
    obtain ⟨unlike, distinct⟩ := List.nodup_cons.mp distinct
    obtain ⟨a, after, log, hs, f', view, claimed, joined⟩ := f.step wf d here
    have absent' : ∀ other ∈ rest, other.1.uid ∉ (after.rosterFor policy).qualified := by
      intro other hm there
      rcases (joined other.1.uid).mp there with same | there
      · exact unlike (List.mem_map.mpr ⟨other, hm, same⟩)
      · exact elsewhere other hm there
    obtain ⟨placed, filled, total⟩ := ih distinct f' (view ▸ others) absent'
    have run_eq : s.run (schedules (call :: rest)) = after.run (schedules rest) := by
      simp [schedules, Session.run, hs]
    have answers_eq : s.answers (schedules (call :: rest)) =
        .scheduled (.ok a) :: after.answers (schedules rest) := by
      simp [schedules, answers, hs]
    have landed_eq : s.landed policy (call :: rest) = after.landed policy rest +
        (if (Answer.scheduled (.ok a)).lands policy call.2 then 1 else 0) := by
      simp only [landed, answers_eq, List.zip_cons_cons, List.countP_cons]
    refine ⟨?_, ?_, ?_⟩
    · rw [answers_eq]
      exact List.forall_mem_cons.mpr ⟨⟨a, rfl⟩, placed⟩
    · rw [run_eq, List.length_cons, show n + (rest.length + 1) = n + 1 + rest.length by omega]
      exact filled
    · rw [run_eq, total, claimed, landed_eq]
      omega

/-- **The ratio of a policy is kept.**  When pods with different identifiers that a policy
governs are scheduled, each with nodes on both sides, while the policy has no pod on record
at first, then every pod is placed.  As many of them go to selected nodes as the policy
claims, which is as many as its target asks for, brought between none and all of them; so
the order of the pods does not matter. -/
theorem landed_eq_required (h : s.Reachable) (policy : Policy) (calls : List (Pod × List Node))
    (wanted : Int) (computes : policy.target.required calls.length policy.action = .ok wanted)
    (untracked : ∀ key, (policy.ns, policy.name, key) ∉ s.registry.memberships)
    (distinct : (calls.map (·.1.uid)).Nodup)
    (decides : ∀ call ∈ calls, Decides s.view policy call) :
    (∀ answer ∈ s.answers (schedules calls), ∃ a, answer = .scheduled (.ok a)) ∧
      s.landed policy calls = ((s.run (schedules calls)).rosterFor policy).managed.size ∧
      (s.landed policy calls : Int) = max 0 (min (calls.length : Int) wanted) ∧
      ∀ other : List (Pod × List Node), other.Perm calls →
        s.landed policy other = s.landed policy calls := by
  have wf : policy.target.WellFormed := TargetSize.wellFormed_of_required computes
  have nobody : ∀ key, key ∉ (s.rosterFor policy).qualified :=
    fun key there => untracked key (mem_onRecord.mp there)
  have claimed : (s.rosterFor policy).managed.size = 0 := by
    obtain ⟨none_wanted, hnone⟩ := TargetSize.exists_required wf 0 policy.action
    have filled := (Filled.start h untracked).claimed none_wanted hnone
    rw [TargetSize.filled] at filled
    omega
  -- The number of the attempts decides, so the same holds of every order of them.
  have count (some_calls : List (Pod × List Node)) (same : some_calls.Perm calls) :
      (∀ answer ∈ s.answers (schedules some_calls), ∃ a, answer = .scheduled (.ok a)) ∧
        s.landed policy some_calls =
          ((s.run (schedules some_calls)).rosterFor policy).managed.size ∧
        (s.landed policy some_calls : Int) = max 0 (min (calls.length : Int) wanted) := by
    obtain ⟨placed, filled, total⟩ := (Filled.start h untracked).run wf some_calls
      ((same.map _).nodup_iff.mpr distinct) (fun call hm => decides call (same.subset hm))
      (fun call _ => nobody _)
    rw [claimed, Nat.zero_add] at total
    refine ⟨placed, total.symm, ?_⟩
    have final := filled.claimed wanted (by rw [Nat.zero_add, same.length_eq]; exact computes)
    rw [← total, final, TargetSize.filled, Nat.zero_add, same.length_eq]
  obtain ⟨placed, total, ratio⟩ := count calls (.refl calls)
  refine ⟨placed, total, ratio, fun other same => ?_⟩
  have ratio' := (count other same).2.2
  omega

/-- Each of the shop's batch pods can go either way. -/
theorem decides_shop {uid : String} {nodes : List Node} (hu : uid ∈ ["u", "v", "w"])
    (hn : nodes ∈ [[Shop.edge, Shop.core], [Shop.core, Shop.edge]]) :
    Decides (run {} Shop.opening).view Shop.batch (Shop.pod uid "batch", nodes) where
  keyed := by
    rintro rfl
    simp at hu
  governed := by
    have found : ∀ uid ∈ ["u", "v", "w"], (run {} Shop.opening).view.policyFor
        (Shop.pod uid "batch") = .ok (some Shop.batch) := by decide +kernel
    exact found uid hu
  distinct := by
    have differ : ∀ nodes ∈ [[Shop.edge, Shop.core], [Shop.core, Shop.edge]],
        (nodes.map (·.name)).Nodup := by decide
    exact differ nodes hn
  selected := by
    refine ⟨Shop.edge, ?_, by decide +kernel⟩
    rcases List.mem_pair.mp hn with rfl | rfl <;> simp
  unselected := by
    refine ⟨Shop.core, ?_, by decide +kernel⟩
    rcases List.mem_pair.mp hn with rfl | rfl <;> simp

/-- Of three batch pods of the shop one belongs off the edge, so two are sent to it. -/
theorem landed_shop :
    (run {} Shop.opening).landed Shop.batch
      [(Shop.pod "u" "batch", [Shop.edge, Shop.core]),
        (Shop.pod "v" "batch", [Shop.edge, Shop.core]),
        (Shop.pod "w" "batch", [Shop.core, Shop.edge])] = 2 := by
  have untracked (key : String) : (Shop.batch.ns, Shop.batch.name, key) ∉
      (run {} Shop.opening).registry.memberships := by
    rw [show (run {} Shop.opening).registry = ∅ from rfl, Registry.memberships_empty]
    exact id
  have ratio := (landed_eq_required (Reachable.start.run Shop.opening) Shop.batch
    [(Shop.pod "u" "batch", [Shop.edge, Shop.core]),
      (Shop.pod "v" "batch", [Shop.edge, Shop.core]),
      (Shop.pod "w" "batch", [Shop.core, Shop.edge])] 2 rfl untracked (by decide)
    (by simp [decides_shop])).2.2.1
  simp only [List.length_cons, List.length_nil] at ratio
  omega

end Session

end Placement
