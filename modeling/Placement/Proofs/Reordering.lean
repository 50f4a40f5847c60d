import Placement.Proofs.Conclusion
import Placement.Proofs.Moves
import Placement.Proofs.Scoring

/-!
# The order of the nodes

The nodes among which a pod is placed come in some order.  Where the pod goes, how each node
is scored, whether and why an attempt fails, and what it leaves on record do not depend on
that order; only the scores are listed in it.

## Main definitions

* `Steering.listed` — the scores of nodes by a rating that may rule nodes out.
* `Steering.Reordered` — outcomes for the same nodes in two orders.

The main statements are `Host.best?_perm` and `Steering.exists_rescale_perm` on scores, and
`Session.schedule_reordered`.
-/

namespace Placement

variable {scores scores' : List NodeScore} {nodes nodes' : List Node}

namespace Host

/-- **The best of scores is the best in any order.** -/
theorem best?_perm (perm : scores.Perm scores') : best? scores = best? scores' := by
  ext s
  simp only [best?_eq_some_iff, perm.mem_iff]

end Host

namespace Steering

/-! ## Scores -/

/-- **Rescaling gives each score its place whatever the order.** -/
theorem exists_rescale_perm (perm : scores.Perm scores') :
    ∃ place : Int → Int,
      rescale scores = scores.map (fun s => { s with score := place s.score }) ∧
        rescale scores' = scores'.map (fun s => { s with score := place s.score }) := by
  by_cases empty : scores = []
  · subst empty
    obtain rfl := perm.nil_eq
    exact ⟨id, rfl, rfl⟩
  have empty' : scores' ≠ [] := fun none_left => empty (none_left ▸ perm).eq_nil
  obtain ⟨low, high, ⟨s, hs, low_eq⟩, ⟨t, ht, high_eq⟩, ends, scaled⟩ := exists_rescale_eq empty
  obtain ⟨low', high', ⟨s', hs', low_eq'⟩, ⟨t', ht', high_eq'⟩, ends', scaled'⟩ :=
    exists_rescale_eq empty'
  have lowest : low = low' := by
    have := (ends' s (perm.mem_iff.mp hs)).1
    have := (ends s' (perm.mem_iff.mpr hs')).1
    omega
  have highest : high = high' := by
    have := (ends' t (perm.mem_iff.mp ht)).2
    have := (ends t' (perm.mem_iff.mpr ht')).2
    omega
  exact ⟨scale low high, scaled, by rw [scaled', lowest, highest]⟩

/-- The scores of nodes by a rating that may rule nodes out. -/
def listed (rate : Node → Option Int) (nodes : List Node) : List NodeScore :=
  nodes.filterMap fun node => (rate node).map (NodeScore.mk node.name)

/-- Outcomes for the same nodes in two orders: they fail alike, or they place the pod alike
and score each node alike. -/
inductive Reordered (nodes nodes' : List Node) :
    Except Status Assignment → Except Status Assignment → Prop
  | failed (status : Status) : Reordered nodes nodes' (.error status) (.error status)
  | placed {a b : Assignment} (rate : Node → Option Int) :
      a.pod = b.pod → a.node = b.node →
      a.scores = listed rate nodes → b.scores = listed rate nodes' → a.scores.Perm b.scores →
      Reordered nodes nodes' (.ok a) (.ok b)

/-! ## Attempts -/

/-- The scores of the possible nodes, each brought to its place. -/
theorem map_rated_possible (pod : Pod) (place : Int → Int) (judged scored : Option Stage)
    (nodes : List Node) :
    (rated pod scored (possible judged nodes)).map
        (fun s => { s with score := place s.score }) =
      listed (fun node => if (verdict judged node).isSuccess
        then some (place (rating pod scored node).1) else none) nodes := by
  rw [rated, possible, listed, List.map_map]
  induction nodes with
  | nil => rfl
  | cons node rest ih =>
    cases success : (verdict judged node).isSuccess with
    | true => simpa [success] using ih
    | false => simpa [success] using ih

/-- **The outcome of an attempt is the same in any order of the nodes.** -/
theorem outcome_reordered (perm : nodes.Perm nodes') (pod : Pod) (judged scored : Stage) :
    Reordered nodes nodes' (outcome pod nodes judged scored)
      (outcome pod nodes' judged scored) := by
  have left : (possible (some judged) nodes).Perm (possible (some judged) nodes') :=
    perm.filter _
  have ratings := left.map fun node =>
    NodeScore.mk node.name (rating pod (some scored) node).1
  obtain ⟨place, scaled, scaled'⟩ := exists_rescale_perm ratings
  have rescaled := (ratings.map fun s => { s with score := place s.score })
  rw [outcome, outcome, left.isEmpty_eq, perm.length_eq]
  split
  · exact .failed _
  · rw [rated, rated, scaled, scaled']
    refine .placed _ rfl ?_ (map_rated_possible pod place (some judged) (some scored) nodes)
      (map_rated_possible pod place (some judged) (some scored) nodes') rescaled
    rw [Host.assign, Host.assign, Host.best?_perm rescaled]

/-- **What an attempt concludes is the same in any order of the nodes.** -/
theorem conclusion_reordered (perm : nodes.Perm nodes')
    (governs : Except PlacementError (Option Policy)) (pod : Pod) (registry : Registry) :
    Reordered nodes nodes' (conclusion governs pod nodes registry).1
        (conclusion governs pod nodes' registry).1 ∧
      (conclusion governs pod nodes registry).2 = (conclusion governs pod nodes' registry).2 := by
  have empty : nodes = [] ↔ nodes' = [] :=
    ⟨fun h => (h ▸ perm).nil_eq.symm, fun h => (h ▸ perm).eq_nil⟩
  cases governs with
  | error e => exact ⟨.failed _, rfl⟩
  | ok policy? =>
    cases policy? with
    | none => exact ⟨outcome_reordered perm pod _ _, rfl⟩
    | some policy =>
      simp only [conclusion, empty]
      split
      · exact ⟨.failed _, rfl⟩
      · split
        · exact ⟨.failed _, rfl⟩
        · split
          · exact ⟨outcome_reordered perm pod _ _, rfl⟩
          · exact ⟨outcome_reordered perm pod _ _, rfl⟩

end Steering

namespace Session

variable {s : Session}

/-- **The order of the nodes does not matter.**  In every session that commands lead to, two
attempts to place a pod among the same nodes in two orders fail alike, or place the pod on the
same node with the same score for each node, and they leave the same rosters. -/
theorem schedule_reordered (h : s.Reachable) (pod : Pod) (perm : nodes.Perm nodes') :
    ∃ outcome outcome',
      (s.step (.schedule pod nodes)).1 = .scheduled outcome ∧
        (s.step (.schedule pod nodes')).1 = .scheduled outcome' ∧
        Steering.Reordered nodes nodes' outcome outcome' ∧
        (s.step (.schedule pod nodes)).2.1.registry =
          (s.step (.schedule pod nodes')).2.1.registry := by
  obtain ⟨result, registry⟩ := step_schedule h pod nodes
  obtain ⟨result', registry'⟩ := step_schedule h pod nodes'
  have concluded :=
    Steering.conclusion_reordered perm (s.view.policyFor pod) pod s.registry
  exact ⟨_, _, result, result', concluded.1, registry.trans (concluded.2.trans registry'.symm)⟩

end Session

/-! ## Two nodes alike -/

namespace Shop

/-- Another node that the policies of the shop select. -/
def quay : Node :=
  { edge with name := "quay" }

/-- A web pod finds the same one of two nodes that suit it alike, in whichever order they
come. -/
theorem reordered_quay :
    ∃ a b, ((Session.run {} opening).step
        (.schedule (pod "u" "web") [quay, core, edge])).1 = .scheduled (.ok a) ∧
      ((Session.run {} opening).step
        (.schedule (pod "u" "web") [edge, quay, core])).1 = .scheduled (.ok b) ∧
      a.node = b.node ∧ a.scores.Perm b.scores := by
  have perm : [quay, core, edge].Perm [edge, quay, core] := by decide +kernel
  obtain ⟨outcome, outcome', first, second, alike, _⟩ :=
    Session.schedule_reordered (Session.Reachable.start.run opening) (pod "u" "web") perm
  have goes : ((Session.run {} opening).step
      (.schedule (pod "u" "web") [quay, core, edge])).1.isFailure = false := by
    decide +kernel
  rw [first] at goes
  cases alike with
  | failed status => cases goes
  | placed rate _ node _ _ listed => exact ⟨_, _, first, second, node, listed⟩

end Shop

end Placement
