import Placement.Proofs.Scoring
import Placement.Proofs.Session

/-!
# What an attempt decides

The outcome of an attempt in closed form, without phases, stages and scores on two scales.
It depends on the policy that governs the pod, on the nodes, and on whether the policy claims
the pod once the attempt is over.

## Main definitions

* `Steering.sided` — scores that tell nodes of two kinds apart.
* `Steering.preferred` — the nodes of the better kind, if there are any.
* `Steering.decided` — what an attempt decides.

The main statements are `Steering.rescale_sided` and `Steering.best?_sided` on scores,
`Steering.Attempted.decided_eq` on attempts, and `Session.schedule_decided` on sessions.
-/

namespace Placement

open Placement.Membership

namespace Steering

variable {right : Node → Bool} {nodes : List Node} {node : Node} {pod : Pod}

/-! ## Nodes of two kinds -/

/-- The score of a node that is right, or of one that is not. -/
def mark (right : Bool) : Int :=
  if right then maxScore else minScore

/-- Scores that tell the right nodes from the others. -/
def sided (right : Node → Bool) (nodes : List Node) : List NodeScore :=
  nodes.map fun node => ⟨node.name, mark (right node)⟩

/-- Whether a node is right while another one is not. -/
def standsOut (right : Node → Bool) (nodes : List Node) (node : Node) : Bool :=
  right node && nodes.any fun other => !right other

/-- The right nodes, or all of them if none is right. -/
def preferred (right : Node → Bool) (nodes : List Node) : List Node :=
  if nodes.any right then nodes.filter right else nodes

theorem mark_le_mark {a b : Bool} : mark a ≤ mark b ↔ (a = true → b = true) := by
  cases a <;> cases b <;> decide

theorem sided_ne_nil (right : Node → Bool) (some_node : nodes ≠ []) : sided right nodes ≠ [] := by
  simpa [sided] using some_node

theorem standsOut_eq_true :
    standsOut right nodes node = true ↔
      right node = true ∧ ∃ other ∈ nodes, right other = false := by
  simp [standsOut]

/-- Of nodes that are all right, none stands out. -/
theorem standsOut_of_forall (all_right : ∀ node ∈ nodes, right node = true) (node : Node) :
    standsOut right nodes node = false := by
  rw [Bool.eq_false_iff]
  intro out
  obtain ⟨_, other, there, wrong⟩ := standsOut_eq_true.mp out
  simp [all_right other there] at wrong

theorem mem_preferred :
    node ∈ preferred right nodes ↔
      node ∈ nodes ∧ ((∃ other ∈ nodes, right other = true) → right node = true) := by
  rw [preferred]
  split
  next some_right =>
    rw [List.any_eq_true] at some_right
    rw [List.mem_filter, forall_prop_of_true some_right]
  next none_right =>
    rw [List.any_eq_true] at none_right
    rw [forall_prop_of_false none_right, and_true]

theorem preferred_of_not_exists (none_right : ¬∃ node ∈ nodes, right node = true) :
    preferred right nodes = nodes := by
  rw [preferred, if_neg fun some_right => none_right (List.any_eq_true.mp some_right)]

theorem preferred_of_forall (all_right : ∀ node ∈ nodes, right node = true) :
    preferred right nodes = nodes := by
  rw [preferred, List.filter_eq_self.mpr all_right, ite_self]

/-- Nodes that stand out are preferred to the others just as right ones are. -/
theorem preferred_standsOut (right : Node → Bool) (nodes : List Node) :
    preferred (standsOut right nodes) nodes = preferred right nodes := by
  by_cases mixed : ∃ other ∈ nodes, right other = false
  · have some_wrong : (nodes.any fun other => !right other) = true := by simpa using mixed
    have same : standsOut right nodes = right := by
      funext node
      rw [standsOut, some_wrong, Bool.and_true]
    rw [same]
  · have all_right : ∀ node ∈ nodes, right node = true := by simpa using mixed
    have none_out : ¬∃ node ∈ nodes, standsOut right nodes node = true := by
      simp [standsOut_of_forall all_right]
    rw [preferred_of_not_exists none_out, preferred_of_forall all_right]

/-! ## Their scores -/

/-- Rescaling measures nodes on the scale from a worst to a best one. -/
theorem exists_rescale_sided (right : Node → Bool) (some_node : nodes ≠ []) :
    ∃ worst ∈ nodes, ∃ best ∈ nodes,
      (∀ node ∈ nodes, (right worst = true → right node = true) ∧
        (right node = true → right best = true)) ∧
      rescale (sided right nodes) = nodes.map fun node =>
        ⟨node.name, scale (mark (right worst)) (mark (right best)) (mark (right node))⟩ := by
  obtain ⟨low, high, ⟨_, bottom, low_eq⟩, ⟨_, top, high_eq⟩, ends, scaled⟩ :=
    exists_rescale_eq (sided_ne_nil right some_node)
  obtain ⟨worst, hworst, rfl⟩ := List.mem_map.mp bottom
  obtain ⟨best, hbest, rfl⟩ := List.mem_map.mp top
  obtain rfl : mark (right worst) = low := low_eq
  obtain rfl : mark (right best) = high := high_eq
  refine ⟨worst, hworst, best, hbest, fun node there => ?_, ?_⟩
  · obtain ⟨above, below⟩ := ends _ (List.mem_map_of_mem there)
    exact ⟨mark_le_mark.mp above, mark_le_mark.mp below⟩
  · rw [scaled, sided, List.map_map]
    rfl

/-- **Rescaling tells two kinds of nodes apart if both are there**, and brings all scores to
the lower end if not. -/
theorem rescale_sided (right : Node → Bool) (nodes : List Node) :
    rescale (sided right nodes) = sided (standsOut right nodes) nodes := by
  by_cases empty : nodes = []
  · rw [empty]
    rfl
  obtain ⟨worst, hworst, best, _, between, scaled⟩ := exists_rescale_sided right empty
  rw [scaled, sided]
  refine List.map_congr_left fun node there => congrArg (NodeScore.mk node.name) ?_
  by_cases out : standsOut right nodes node = true
  · obtain ⟨is_right, other, hother, wrong⟩ := standsOut_eq_true.mp out
    have worst_wrong : right worst = false := by
      rw [Bool.eq_false_iff]
      exact fun worst_is => by simp [(between other hother).1 worst_is] at wrong
    rw [worst_wrong, (between node there).2 is_right, is_right, out]
    exact scale_highest (by decide)
  · -- No node is worse than this one, which then has the lowest score.
    have same : right worst = right node := by
      by_cases is_right : right node = true
      · rw [is_right]
        by_contra wrong
        exact out (standsOut_eq_true.mpr
          ⟨is_right, worst, hworst, Bool.eq_false_iff.mpr wrong⟩)
      · rw [Bool.eq_false_iff.mpr is_right, Bool.eq_false_iff]
        exact fun worst_is => is_right ((between node there).1 worst_is)
    rw [same, scale_lowest, Bool.eq_false_iff.mpr out]
    rfl

/-- **The best of the nodes is the least-named of those that are preferred.** -/
theorem best?_sided (right : Node → Bool) (nodes : List Node) :
    (Host.best? (sided right nodes)).map (·.name) =
      ((preferred right nodes).map (·.name)).min? := by
  by_cases empty : nodes = []
  · rw [empty]
    rfl
  obtain ⟨_, found⟩ := Host.exists_best? (sided_ne_nil right empty)
  obtain ⟨best, there, rfl⟩ := List.mem_map.mp (Host.best?_mem found)
  have unbeaten {node : Node} (h : node ∈ nodes) :
      mark (right node) < mark (right best) ∨
        mark (right node) = mark (right best) ∧ best.name ≤ node.name :=
    Host.not_beats_iff.mp (Host.best?_unbeaten found (List.mem_map_of_mem h))
  have best_right {node : Node} (h : node ∈ nodes) : right node = true → right best = true :=
    mark_le_mark.mp ((unbeaten h).elim le_of_lt fun same => le_of_eq same.1)
  rw [found, Option.map_some, eq_comm, List.min?_eq_some_iff]
  constructor
  · have is_preferred : best ∈ preferred right nodes :=
      mem_preferred.mpr ⟨there, fun ⟨_, h, is_right⟩ => best_right h is_right⟩
    exact List.mem_map_of_mem is_preferred
  · intro name listed
    obtain ⟨node, is_preferred, rfl⟩ := List.mem_map.mp listed
    obtain ⟨h, as_good⟩ := mem_preferred.mp is_preferred
    rcases unbeaten h with lt | ⟨_, least⟩
    · -- A node that is preferred is not below the best one.
      have le : mark (right best) ≤ mark (right node) :=
        mark_le_mark.mpr fun best_is => as_good ⟨best, there, best_is⟩
      exact absurd lt (not_lt.mpr le)
    · exact least

/-! ## The decision -/

/-- A pod goes to the least-named of the best nodes.  The possible ones are listed with their
scores. -/
def placed (pod : Pod) (best possible : List Node) (score : Node → Int) :
    Except Code Assignment :=
  match (best.map (·.name)).min? with
  | none => .error .unschedulable
  | some name => .ok ⟨pod.name, name, possible.map fun node => ⟨node.name, score node⟩⟩

/-- A pod is placed among the nodes that agree, which the mode requires or only prefers. -/
def placedBy (mode : Mode) (agrees : Node → Bool) (pod : Pod) (nodes : List Node) :
    Except Code Assignment :=
  match mode with
  | .strict => placed pod (nodes.filter agrees) (nodes.filter agrees) fun _ => minScore
  | .bestEffort =>
    placed pod (preferred agrees nodes) nodes fun node => mark (standsOut agrees nodes node)

/-- What an attempt decides about a pod, from the policy that governs it and from the registry
when the attempt is over.  A node agrees if it is selected by the policy exactly when the pod
is claimed by it. -/
def decided (governs : Option Policy) (after : Registry) (pod : Pod) (nodes : List Node) :
    Except Code Assignment :=
  match governs with
  | none => placed pod nodes nodes fun _ => minScore
  | some policy =>
    if pod.uid = "" ∨ ¬policy.target.WellFormed then .error .error
    else
      placedBy policy.mode (fun node => node.labels.satisfies policy.nodeSelector ==
        after.claims policy.ns policy.name pod.uid) pod nodes

/-! ## The decision of an attempt -/

/-- An outcome is a placement among the possible nodes, if the scores tell two kinds apart. -/
theorem outcome_eq_placed {judged scored : Stage} {score : Node → Int} {left : List Node}
    (possible : possible (some judged) nodes = left)
    (rates : rated pod (some scored) left = sided right left)
    (scores : ∀ node ∈ left, mark (standsOut right left node) = score node) :
    (outcome pod nodes judged scored).mapError (·.code) =
      placed pod (preferred right left) left score := by
  by_cases empty : left = []
  · subst empty
    rw [outcome, possible]
    rfl
  have rescaled : rescale (rated pod (some scored) left) =
      left.map fun node => ⟨node.name, score node⟩ := by
    rw [rates, rescale_sided]
    exact List.map_congr_left fun node there => by rw [scores node there]
  have best : (Host.best? (rescale (rated pod (some scored) left))).map (·.name) =
      ((preferred right left).map (·.name)).min? := by
    rw [rates, rescale_sided, best?_sided, preferred_standsOut]
  have least : ∃ name, ((preferred right left).map (·.name)).min? = some name := by
    obtain ⟨s, found⟩ := Host.exists_best? (sided_ne_nil right empty)
    exact ⟨s.name, by rw [← best?_sided, found, Option.map_some]⟩
  obtain ⟨name, least⟩ := least
  rw [outcome, possible, if_neg (by simpa using empty), placed, least, Except.mapError,
    Host.assign, best, least, rescaled, Option.getD_some]

theorem rated_ungoverned (pod : Pod) (nodes : List Node) :
    rated pod (some .ungoverned) nodes = sided (fun _ => false) nodes := rfl

theorem rated_committed (pod : Pod) (decision : Decision) (nodes : List Node) :
    rated pod (some (.committed decision)) nodes = sided decision.agrees nodes := rfl

theorem possible_committed (decision : Decision) (nodes : List Node) :
    possible (some (.committed decision)) nodes = nodes.filter decision.agrees := by
  refine List.filter_congr fun node _ => ?_
  simp only [verdict]
  split
  next agrees => rw [agrees]; rfl
  next disagrees => rw [Bool.eq_false_iff.mpr disagrees]; rfl

/-- A pod that has joined is placed by its side of the roster. -/
theorem decided_of_joined {policy : Policy} (hu : pod.uid ≠ "") (wf : policy.target.WellFormed)
    (registry : Registry) (joined : Roster) :
    decided (some policy) (Namespaced.insert registry policy.ns policy.name joined) pod nodes =
      placedBy policy.mode (Decision.agrees ⟨policy, joined, pod.uid⟩) pod nodes := by
  rw [decided, if_neg (not_or.mpr ⟨hu, not_not_intro wf⟩), Registry.claims_insert,
    if_pos ⟨rfl, rfl⟩]
  rfl

/-- **An attempt decides what the policy, the claim and the nodes say.** -/
theorem Attempted.decided_eq {view : View} {registry after : Registry}
    {result : Except Status Assignment} {governs : Option Policy}
    (h : Attempted view pod nodes registry result after)
    (looked : view.policyFor pod = .ok governs) :
    result.mapError (·.code) = decided governs after pod nodes := by
  cases h with
  | unread found =>
    rw [found] at looked
    cases looked
  | ungoverned found =>
    obtain rfl := Except.ok.inj (found.symm.trans looked)
    rw [decided, outcome_eq_placed (possible_ungoverned nodes) (rated_ungoverned pod nodes)
      fun _ _ => rfl, preferred_of_not_exists (by simp)]
    rfl
  | keyless found hu =>
    obtain rfl := Except.ok.inj (found.symm.trans looked)
    rw [decided, if_pos (.inl hu)]
    rfl
  | malformed found hu fails =>
    obtain rfl := Except.ok.inj (found.symm.trans looked)
    rw [decided, if_pos (.inr (not_wellFormed_of_rosterOf fails))]
    rfl
  | @enforced policy joined found hu mode admitted =>
    obtain rfl := Except.ok.inj (found.symm.trans looked)
    -- Only agreeing nodes are left, so that all score low in the end.
    have all_agree (node : Node)
        (left : node ∈ nodes.filter (Decision.agrees ⟨policy, joined, pod.uid⟩)) :
        Decision.agrees ⟨policy, joined, pod.uid⟩ node = true := (List.mem_filter.mp left).2
    rw [decided_of_joined hu (wellFormed_of_admission admitted), mode, placedBy,
      outcome_eq_placed (possible_committed ..) (rated_committed ..) fun node _ =>
        congrArg mark (standsOut_of_forall all_agree node), preferred_of_forall all_agree]
    rfl
  | @deserted policy roster found hu mode given empty =>
    obtain rfl := Except.ok.inj (found.symm.trans looked)
    have wf : policy.target.WellFormed := exists_rosterOf_iff.mp ⟨roster, given⟩
    rw [decided, if_neg (not_or.mpr ⟨hu, not_not_intro wf⟩), mode, empty]
    rfl
  | @ranked policy roster joined found hu mode some_node admitted =>
    obtain rfl := Except.ok.inj (found.symm.trans looked)
    rw [decided_of_joined hu (wellFormed_of_admission admitted), mode, placedBy]
    exact outcome_eq_placed (possible_chosen ..) (rated_committed ..) fun _ _ => rfl

end Steering

namespace Session

variable {s : Session}

/-- **What scheduling decides.**  In every session that commands lead to and in which the
catalog can be read, an attempt to place a pod ends as decided by the policy that is found to
govern the pod, by the nodes, and by whether that policy claims the pod afterwards. -/
theorem schedule_decided (h : s.Reachable) (readable : s.view.outage = none) (pod : Pod)
    (nodes : List Node) :
    ∃ outcome, (s.step (.schedule pod nodes)).1 = .scheduled outcome ∧
      outcome.mapError (·.code) =
        Steering.decided (selectPolicy (s.view.catalog.policiesIn pod.ns) pod.labels)
          (s.step (.schedule pod nodes)).2.1.registry pod nodes :=
  ⟨_, rfl, (Steering.schedule_spec s.view pod nodes s.desk h.sound).decided_eq
    (View.policyFor_of_readable readable pod)⟩

end Session

/-! ## A second batch pod -/

namespace Shop

/-- A batch pod is placed, and claimed for the edge. -/
def started : List Session.Command :=
  opening ++ [.schedule (pod "u" "batch") [edge, core]]

/-- The next batch pod is not claimed, and is better off the edge. -/
theorem schedule_started :
    ∃ outcome, ((Session.run {} started).step
        (.schedule (pod "v" "batch") [edge, core])).1 = .scheduled outcome ∧
      outcome.mapError (·.code) = .ok ⟨"pod-v", "core", [⟨"edge", 0⟩, ⟨"core", 100⟩]⟩ := by
  obtain ⟨outcome, result, decides⟩ := Session.schedule_decided
    (Session.Reachable.start.run started) (by decide +kernel) (pod "v" "batch") [edge, core]
  refine ⟨outcome, result, decides.trans ?_⟩
  decide +kernel

end Shop

end Placement
