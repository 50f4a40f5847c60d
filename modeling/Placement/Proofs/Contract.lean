import Placement.Proofs.Host
import Placement.Script

/-!
# The contract between the host and a plugin

An attempt is known from the reports of the plugin: they tell its outcome, and which phases
are called in which order, with which nodes.  A plugin can be watched to see its calls, which
changes nothing else.  The contract is stated for plugins that follow a script, which can
report anything in any phase and on any node.

## Main definitions

* `Visit` — one call of a phase.
* `Plugin.watched` — a plugin together with the calls it gets.
* `Script.possible`, `Script.rated` — the nodes that a script lets through, and their scores.
* `Picks` — a pod goes to the least-named of the nodes with the highest score.
* `Script.Settled` — how an attempt ends under a script, and by which calls.

The main statements are `schedule_watched` and `schedule_settled`.
-/

namespace Placement

variable {σ α β : Type}

/-! ## Watching a plugin -/

/-- One call of a phase. -/
inductive Visit where
  | preFilter (pod : Pod) (nodes : List Node)
  | filter (pod : Pod) (node : Node)
  | preScore (pod : Pod) (nodes : List Node)
  | score (pod : Pod) (node : Node)
  | normalize (pod : Pod) (scores : List NodeScore)

/-- The plugin with all its calls so far beside its state, the first one first. -/
def Plugin.watched (plugin : Plugin σ) : Plugin (σ × List Visit) where
  preFilter pod nodes cycle := fun (s, visits) =>
    let (status, cycle, s) := plugin.preFilter pod nodes cycle s
    (status, cycle, s, visits ++ [.preFilter pod nodes])
  filter pod node cycle := fun (s, visits) =>
    let (status, s) := plugin.filter pod node cycle s
    (status, s, visits ++ [.filter pod node])
  preScore pod nodes cycle := fun (s, visits) =>
    let (status, cycle, s) := plugin.preScore pod nodes cycle s
    (status, cycle, s, visits ++ [.preScore pod nodes])
  score pod node cycle := fun (s, visits) =>
    let (result, s) := plugin.score pod node cycle s
    (result, s, visits ++ [.score pod node])
  normalize := plugin.normalize.map fun normalize pod scores cycle (s, visits) =>
    let (result, s) := normalize pod scores cycle s
    (result, s, visits ++ [.normalize pod scores])
  log line := fun (s, visits) => (plugin.log line s, visits)

namespace Host

/-- Steps that are watched do what they do, and are seen one by one. -/
theorem through_watched {step : α → σ → β × σ} {seen : α → σ × List Visit → β × σ × List Visit}
    {visit : α → Visit}
    (h : ∀ a s visits, seen a (s, visits) = ((step a s).1, (step a s).2, visits ++ [visit a]))
    (as : List α) (s : σ) (visits : List Visit) :
    through seen as (s, visits) =
      ((through step as s).1, (through step as s).2, visits ++ as.map visit) := by
  induction as generalizing s visits with
  | nil => simp [through]
  | cons a as ih =>
    simp only [through, h, ih, List.map_cons]
    rw [List.append_assoc, List.singleton_append]

private theorem log_watched (plugin : Plugin σ) (pod : Pod) (ruledOut : List (Node × Status))
    (s : σ) (visits : List Visit) :
    ruledOut.foldl (fun s (node, status) => plugin.watched.log (.ruledOut pod node status) s)
        (s, visits) =
      (ruledOut.foldl (fun s (node, status) => plugin.log (.ruledOut pod node status) s) s,
        visits) := by
  induction ruledOut generalizing s with
  | nil => rfl
  | cons entry rest ih => exact ih _

/-- Every node is judged once, in order. -/
theorem feasible_watched (plugin : Plugin σ) (pod : Pod) (nodes : List Node) (cycle : CycleState)
    (s : σ) (visits : List Visit) :
    feasible plugin.watched pod nodes cycle (s, visits) =
      ((feasible plugin pod nodes cycle s).1, (feasible plugin pod nodes cycle s).2,
        visits ++ nodes.map (.filter pod)) := by
  have judged : through (fun node => plugin.watched.filter pod node cycle) nodes (s, visits) =
      ((through (fun node => plugin.filter pod node cycle) nodes s).1,
        (through (fun node => plugin.filter pod node cycle) nodes s).2,
        visits ++ nodes.map (.filter pod)) :=
    through_watched (fun _ _ _ => rfl) nodes s visits
  simp only [feasible, judged, log_watched]

/-- The call that brings scores onto one scale, if they are there and the plugin does that. -/
def scaling (plugin : Plugin σ) (pod : Pod) : Except Status (List NodeScore) → List Visit
  | .ok raw => if plugin.normalize.isSome then [.normalize pod raw] else []
  | .error _ => []

/-- Every possible node is scored once, in order, and then the scores are brought onto one
scale. -/
theorem scores_watched (plugin : Plugin σ) (pod : Pod) (nodes : List Node) (cycle : CycleState)
    (s : σ) (visits : List Visit) :
    scores plugin.watched pod nodes cycle (s, visits) =
      ((scores plugin pod nodes cycle s).1, (scores plugin pod nodes cycle s).2,
        visits ++ nodes.map (.score pod) ++ scaling plugin pod (collect (nodes.zip
          (through (fun node => plugin.score pod node cycle) nodes s).1))) := by
  have rated : through (fun node => plugin.watched.score pod node cycle) nodes (s, visits) =
      ((through (fun node => plugin.score pod node cycle) nodes s).1,
        (through (fun node => plugin.score pod node cycle) nodes s).2,
        visits ++ nodes.map (.score pod)) :=
    through_watched (fun _ _ _ => rfl) nodes s visits
  simp only [scores, rated]
  cases collect (nodes.zip (through (fun node => plugin.score pod node cycle) nodes s).1) with
  | error status => simp [scaling]
  | ok raw =>
    cases h : plugin.normalize with
    | none => simp [scaling, Plugin.watched, h]
    | some normalize => simp [scaling, Plugin.watched, h]

/-- **Watching a plugin changes nothing**: the outcome of an attempt and the state it leaves
are the same, and the calls come after those before. -/
theorem schedule_watched (plugin : Plugin σ) (pod : Pod) (nodes : List Node) (s : σ)
    (visits : List Visit) :
    ∃ seen, schedule plugin.watched pod nodes (s, visits) =
      ((schedule plugin pod nodes s).1, (schedule plugin pod nodes s).2, visits ++ seen) := by
  generalize hp : plugin.preFilter pod nodes ∅ s = first
  obtain ⟨status, cycle, s₁⟩ := first
  have looked : plugin.watched.preFilter pod nodes ∅ (s, visits) =
      (status, cycle, s₁, visits ++ [.preFilter pod nodes]) := by
    simp only [Plugin.watched, hp]
  have judged := feasible_watched plugin pod nodes cycle s₁ (visits ++ [.preFilter pod nodes])
  generalize hf : feasible plugin pod nodes cycle s₁ = second at judged
  obtain ⟨possible, s₂⟩ := second
  generalize hr : plugin.preScore pod possible cycle s₂ = third
  obtain ⟨status', cycle', s₃⟩ := third
  have ranked (visits : List Visit) : plugin.watched.preScore pod possible cycle (s₂, visits) =
      (status', cycle', s₃, visits ++ [.preScore pod possible]) := by
    simp only [Plugin.watched, hr]
  simp only [schedule, looked, judged, ranked, scores_watched, hp, hf, hr, List.append_assoc]
  split
  · exact ⟨_, rfl⟩
  split
  · exact ⟨_, rfl⟩
  split
  · exact ⟨_, rfl⟩
  · exact ⟨_, rfl⟩

end Host

/-! ## What a script makes of the nodes -/

/-- What a script records of a call. -/
def Visit.call? : Visit → Option Call
  | preFilter pod nodes => some (.preFilter pod.name (nodes.map (·.name)))
  | filter .. => none
  | preScore pod nodes => some (.preScore pod.name (nodes.map (·.name)))
  | score .. => none
  | normalize pod scores => some (.normalize pod.name scores)

/-- A pod goes to the node with the least name among those with the highest score. -/
structure Picks (pod : Pod) (scores : List NodeScore) (assignment : Assignment) : Prop where
  pod_eq : assignment.pod = pod.name
  scores_eq : assignment.scores = scores
  best : ∃ top, ⟨assignment.node, top⟩ ∈ scores ∧ (∀ s ∈ scores, s.score ≤ top) ∧
    ∀ s ∈ scores, s.score = top → assignment.node ≤ s.name

theorem picks_assign {scores : List NodeScore} (h : scores ≠ []) (pod : Pod) :
    Picks pod scores (Host.assign pod scores) where
  pod_eq := rfl
  scores_eq := rfl
  best := by
    obtain ⟨best, found⟩ := Host.exists_best? h
    have name : (Host.assign pod scores).node = best.name := by simp [Host.assign, found]
    rw [name]
    refine ⟨best.score, Host.best?_mem found, fun s there => Host.score_le_best? found there,
      fun s there same => ?_⟩
    rcases Host.not_beats_iff.mp (Host.best?_unbeaten found there) with lower | ⟨_, least⟩
    · exact absurd same (Int.ne_of_lt lower)
    · exact least

theorem Host.noneAvailable_eq (count : Nat) :
    Host.noneAvailable count =
      { code := .unschedulable, reasons := [s!"0/{count} nodes are available"] } :=
  rfl

namespace Script

variable {script : Script} {nodes : List Node}

/-- The report on whether a node is possible. -/
def verdict (script : Script) (node : Node) : Status :=
  script.filter[node.name]?.getD .success

/-- The score of a node, and the report on scoring it. -/
def rating (script : Script) (node : Node) : Int × Status :=
  (script.score[node.name]?.getD 0, script.scoreStatus[node.name]?.getD .success)

/-- The nodes that are let through, in order. -/
def possible (script : Script) (nodes : List Node) : List Node :=
  nodes.filter fun node => (script.verdict node).isSuccess

/-- The nodes with their scores. -/
def rated (script : Script) (nodes : List Node) : List NodeScore :=
  nodes.map fun node => ⟨node.name, (script.rating node).1⟩

theorem feasible_plugin (script : Script) (pod : Pod) (nodes : List Node) (cycle : CycleState)
    (calls : List Call) :
    Host.feasible script.plugin pod nodes cycle calls = (script.possible nodes, calls) := by
  have kept : (Host.feasible script.plugin pod nodes cycle calls).1 = script.possible nodes :=
    Host.feasible_fst script.plugin pod cycle (fun _ _ => rfl) nodes calls
  have unchanged : (Host.feasible script.plugin pod nodes cycle calls).2 = calls :=
    Host.feasible_keeps script.plugin pod cycle (I := (· = calls)) (fun _ _ => id) (fun _ _ => id)
      nodes rfl
  exact Prod.ext kept unchanged

theorem through_plugin (script : Script) (pod : Pod) (nodes : List Node) (cycle : CycleState)
    (calls : List Call) :
    Host.through (fun node => script.plugin.score pod node cycle) nodes calls =
      (nodes.map script.rating, calls) := by
  have results : (Host.through (fun node => script.plugin.score pod node cycle) nodes calls).1 =
      nodes.map script.rating :=
    Host.through_fst (f := script.rating) (fun _ _ => rfl) nodes calls
  have unchanged : (Host.through (fun node => script.plugin.score pod node cycle) nodes
      calls).2 = calls :=
    Host.through_keeps (I := (· = calls)) (fun _ _ => id) nodes rfl
  exact Prod.ext results unchanged

/-- A node that cannot be scored ends the attempt, the first one if there are several. -/
theorem scores_of_fails {before after : List Node} {node : Node}
    (scored : ∀ other ∈ before, (script.rating other).2.isSuccess = true)
    (fails : (script.rating node).2.isSuccess = false) (split : nodes = before ++ node :: after)
    (pod : Pod) (cycle : CycleState) (calls : List Call) (visits : List Visit) :
    Host.scores script.plugin.watched pod nodes cycle (calls, visits) =
      (.error (script.rating node).2, calls, visits ++ nodes.map (.score pod)) := by
  have collected : Host.collect (nodes.zip (nodes.map script.rating)) =
      .error (script.rating node).2 := by
    rw [split]
    exact Host.collect_eq_error scored fails
  rw [Host.scores_watched, Host.scores, through_plugin]
  simp only [collected, Host.scaling, List.append_nil]

/-- Where all nodes can be scored, each has its score, and that is all if there is no scale. -/
theorem scores_of_none
    (scored : ∀ node ∈ nodes, (script.rating node).2.isSuccess = true)
    (unscaled : script.normalize = none) (pod : Pod) (cycle : CycleState) (calls : List Call)
    (visits : List Visit) :
    Host.scores script.plugin.watched pod nodes cycle (calls, visits) =
      (.ok (script.rated nodes), calls, visits ++ nodes.map (.score pod)) := by
  have collected : Host.collect (nodes.zip (nodes.map script.rating)) = .ok (script.rated nodes) :=
    Host.collect_eq_ok scored
  have absent : script.plugin.normalize = none := by rw [plugin, unscaled, Option.map_none]
  rw [Host.scores_watched, Host.scores, through_plugin]
  simp [collected, Host.scaling, absent]

/-- Where all nodes can be scored and there is a scale, their scores are brought onto it. -/
theorem scores_of_some {r : Rescaling}
    (scored : ∀ node ∈ nodes, (script.rating node).2.isSuccess = true)
    (scaled : script.normalize = some r) (pod : Pod) (cycle : CycleState) (calls : List Call)
    (visits : List Visit) :
    Host.scores script.plugin.watched pod nodes cycle (calls, visits) =
      (if r.status.isSuccess then .ok (rescale r (script.rated nodes)) else .error r.status,
        calls ++ [.normalize pod.name (script.rated nodes)],
        visits ++ nodes.map (.score pod) ++ [.normalize pod (script.rated nodes)]) := by
  have collected : Host.collect (nodes.zip (nodes.map script.rating)) = .ok (script.rated nodes) :=
    Host.collect_eq_ok scored
  have present : script.plugin.normalize = some fun pod scores _ calls =>
      ((rescale r scores, r.status), calls ++ [.normalize pod.name scores]) := by
    rw [plugin, scaled, Option.map_some]
  rw [Host.scores_watched, Host.scores, through_plugin]
  simp [collected, Host.scaling, present]

/-! ## The contract -/

/-- The calls until all nodes are judged. -/
def judging (pod : Pod) (nodes : List Node) : List Visit :=
  .preFilter pod nodes :: nodes.map (.filter pod)

/-- The calls until the possible ones are scored. -/
def scoring (script : Script) (pod : Pod) (nodes : List Node) : List Visit :=
  judging pod nodes ++ [.preScore pod (script.possible nodes)] ++
    (script.possible nodes).map (.score pod)

/-- An attempt gets as far as scoring. -/
structure Rates (script : Script) (nodes : List Node) : Prop where
  looked : script.preFilter.isSuccess = true
  left : script.possible nodes ≠ []
  ranked : script.preScore.isSuccess = true

/-- An attempt gets as far as having all scores. -/
structure Scores (script : Script) (nodes : List Node) : Prop extends Rates script nodes where
  scored : ∀ node ∈ script.possible nodes, (script.rating node).2.isSuccess = true

/-- How an attempt ends under a script, and with which calls. -/
inductive Settled (script : Script) (pod : Pod) (nodes : List Node) :
    Except Status Assignment → List Visit → Prop
  | turnedAway : script.preFilter.isSuccess = false →
      Settled script pod nodes (.error script.preFilter) [.preFilter pod nodes]
  | noneLeft : script.preFilter.isSuccess = true → script.possible nodes = [] →
      Settled script pod nodes
        (.error { code := .unschedulable, reasons := [s!"0/{nodes.length} nodes are available"] })
        (judging pod nodes)
  | unready : script.preFilter.isSuccess = true → script.possible nodes ≠ [] →
      script.preScore.isSuccess = false →
      Settled script pod nodes (.error script.preScore)
        (judging pod nodes ++ [.preScore pod (script.possible nodes)])
  /-- A possible node cannot be scored, and none before it. -/
  | unrated {before after : List Node} {node : Node} : Rates script nodes →
      script.possible nodes = before ++ node :: after →
      (∀ other ∈ before, (script.rating other).2.isSuccess = true) →
      (script.rating node).2.isSuccess = false →
      Settled script pod nodes (.error (script.rating node).2) (script.scoring pod nodes)
  | unscaled {r : Rescaling} : Scores script nodes → script.normalize = some r →
      r.status.isSuccess = false →
      Settled script pod nodes (.error r.status)
        (script.scoring pod nodes ++ [.normalize pod (script.rated (script.possible nodes))])
  | placed {assignment : Assignment} : Scores script nodes → script.normalize = none →
      Picks pod (script.rated (script.possible nodes)) assignment →
      Settled script pod nodes (.ok assignment) (script.scoring pod nodes)
  | scaled {r : Rescaling} {assignment : Assignment} : Scores script nodes →
      script.normalize = some r → r.status.isSuccess = true →
      Picks pod (rescale r (script.rated (script.possible nodes))) assignment →
      Settled script pod nodes (.ok assignment)
        (script.scoring pod nodes ++ [.normalize pod (script.rated (script.possible nodes))])

/-- What a script records of judging nodes. -/
@[simp] theorem call?_judging (pod : Pod) (nodes : List Node) :
    (judging pod nodes).filterMap Visit.call? = [.preFilter pod.name (nodes.map (·.name))] := by
  have silent : (nodes.map (Visit.filter pod)).filterMap Visit.call? = [] := by
    simp [List.filterMap_map, Function.comp_def, Visit.call?]
  simp [judging, Visit.call?, silent]

/-- What a script records until nodes are scored. -/
@[simp] theorem call?_scoring (script : Script) (pod : Pod) (nodes : List Node) :
    (script.scoring pod nodes).filterMap Visit.call? =
      [.preFilter pod.name (nodes.map (·.name)),
        .preScore pod.name ((script.possible nodes).map (·.name))] := by
  have silent : ((script.possible nodes).map (Visit.score pod)).filterMap Visit.call? = [] := by
    simp [List.filterMap_map, Function.comp_def, Visit.call?]
  simp [scoring, Visit.call?, silent]

/-- The calls of each exit before scoring, and the state in which scoring begins. -/
theorem schedule_watched_plugin (script : Script) (pod : Pod) (nodes : List Node)
    (calls : List Call) :
    Host.schedule script.plugin.watched pod nodes (calls, []) =
      let calls := calls ++ [.preFilter pod.name (nodes.map (·.name))]
      if !script.preFilter.isSuccess then
        (.error script.preFilter, calls, [.preFilter pod nodes])
      else if (script.possible nodes).isEmpty then
        (.error (Host.noneAvailable nodes.length), calls, judging pod nodes)
      else
        let calls := calls ++ [.preScore pod.name ((script.possible nodes).map (·.name))]
        let visits := judging pod nodes ++ [.preScore pod (script.possible nodes)]
        if !script.preScore.isSuccess then (.error script.preScore, calls, visits) else
        let (scores, s) :=
          Host.scores script.plugin.watched pod (script.possible nodes) ∅ (calls, visits)
        (scores.map (Host.assign pod), s) := by
  have looked : script.plugin.watched.preFilter pod nodes ∅ (calls, []) =
      (script.preFilter, ∅, calls ++ [.preFilter pod.name (nodes.map (·.name))],
        [.preFilter pod nodes]) :=
    rfl
  have ranked (calls : List Call) (visits : List Visit) :
      script.plugin.watched.preScore pod (script.possible nodes) ∅ (calls, visits) =
        (script.preScore, ∅, calls ++ [.preScore pod.name ((script.possible nodes).map (·.name))],
          visits ++ [.preScore pod (script.possible nodes)]) :=
    rfl
  simp only [Host.schedule, looked, Host.feasible_watched, feasible_plugin, ranked]
  rfl

theorem rated_ne_nil (h : nodes ≠ []) : script.rated nodes ≠ [] := by
  simpa [rated] using h

theorem rescale_ne_nil {scores : List NodeScore} (r : Rescaling) (h : scores ≠ []) :
    rescale r scores ≠ [] := by
  simpa [rescale] using h

/-- An attempt that gets as far as scoring is settled by the scores. -/
theorem Rates.settled (rates : Rates script nodes) (pod : Pod) (calls : List Call) :
    ∃ outcome visits,
      Host.schedule script.plugin.watched pod nodes (calls, []) =
        (outcome, calls ++ visits.filterMap Visit.call?, visits) ∧
      Settled script pod nodes outcome visits := by
  have left : (script.possible nodes).isEmpty = false :=
    List.isEmpty_eq_false_iff.mpr rates.left
  rw [schedule_watched_plugin]
  simp only [rates.looked, left, rates.ranked, Bool.not_true, Bool.false_eq_true, if_false]
  have there : script.rated (script.possible nodes) ≠ [] := rated_ne_nil rates.left
  -- The first of the possible nodes that cannot be scored decides, if there is one; all of them
  -- are asked for a score even so.
  cases failing : (script.possible nodes).find? fun node => !(script.rating node).2.isSuccess with
  | some node =>
    obtain ⟨fails, before, after, split, scored⟩ := List.find?_eq_some_iff_append.mp failing
    simp only [Bool.not_eq_eq_eq_not, Bool.not_true, Bool.not_not] at fails scored
    refine ⟨_, _, ?_, .unrated rates split scored fails⟩
    rw [scores_of_fails scored fails split, call?_scoring]
    simp [scoring, Except.map]
  | none =>
    have scored : ∀ node ∈ script.possible nodes, (script.rating node).2.isSuccess = true := by
      simpa using List.find?_eq_none.mp failing
    have all : Scores script nodes := { rates with scored }
    cases scale : script.normalize with
    | none =>
      refine ⟨_, _, ?_, .placed all scale (picks_assign there pod)⟩
      rw [scores_of_none scored scale, call?_scoring]
      simp [scoring, Except.map]
    | some r =>
      cases done : r.status.isSuccess with
      | false =>
        refine ⟨_, _, ?_, .unscaled all scale done⟩
        rw [scores_of_some scored scale, List.filterMap_append, call?_scoring]
        simp [scoring, done, Visit.call?, Except.map]
      | true =>
        refine ⟨_, _, ?_, .scaled all scale done (picks_assign (rescale_ne_nil r there) pod)⟩
        rw [scores_of_some scored scale, List.filterMap_append, call?_scoring]
        simp [scoring, done, Visit.call?, Except.map]

/-- **A watched attempt under a script is settled**, and the script has recorded its part of
the calls. -/
theorem settled_watched (script : Script) (pod : Pod) (nodes : List Node) (calls : List Call) :
    ∃ outcome visits,
      Host.schedule script.plugin.watched pod nodes (calls, []) =
        (outcome, calls ++ visits.filterMap Visit.call?, visits) ∧
      Settled script pod nodes outcome visits := by
  cases looked : script.preFilter.isSuccess with
  | false =>
    exact ⟨_, _, by simp [schedule_watched_plugin, looked, Visit.call?], .turnedAway looked⟩
  | true =>
    by_cases none_left : script.possible nodes = []
    · exact ⟨_, _, by simp [schedule_watched_plugin, looked, none_left, Host.noneAvailable_eq],
        .noneLeft looked none_left⟩
    have left := List.isEmpty_eq_false_iff.mpr none_left
    cases ranked : script.preScore.isSuccess with
    | false =>
      exact ⟨_, _, by simp [schedule_watched_plugin, looked, left, ranked, Visit.call?],
        .unready looked none_left ranked⟩
    | true => exact Rates.settled ⟨looked, none_left, ranked⟩ pod calls

/-- A node that is possible stays possible without those that are not. -/
theorem possible_possible (script : Script) (nodes : List Node) :
    script.possible (script.possible nodes) = script.possible nodes := by
  simp [possible]

/-- The outcome of scoring does not depend on the calls before. -/
theorem scores_fst (script : Script) (pod : Pod) (nodes : List Node) (cycle : CycleState)
    (calls calls' : List Call) :
    (Host.scores script.plugin pod nodes cycle calls).1 =
      (Host.scores script.plugin pod nodes cycle calls').1 := by
  simp only [Host.scores, through_plugin]
  cases Host.collect (nodes.zip (nodes.map script.rating)) with
  | error status => rfl
  | ok raw => cases h : script.normalize <;> simp [plugin, h]

/-- **A node that is ruled out only drops out**, whatever its report says: as long as a node is
possible, the attempt ends as it would with the possible nodes alone. -/
theorem schedule_possible (h : script.possible nodes ≠ []) (pod : Pod) (calls : List Call) :
    (Host.schedule script.plugin pod nodes calls).1 =
      (Host.schedule script.plugin pod (script.possible nodes) calls).1 := by
  have looked (nodes : List Node) : script.plugin.preFilter pod nodes ∅ calls =
      (script.preFilter, ∅, calls ++ [.preFilter pod.name (nodes.map (·.name))]) :=
    rfl
  have ranked (nodes : List Node) (calls : List Call) : script.plugin.preScore pod nodes ∅ calls =
      (script.preScore, ∅, calls ++ [.preScore pod.name (nodes.map (·.name))]) :=
    rfl
  have left := List.isEmpty_eq_false_iff.mpr h
  simp only [Host.schedule, looked, ranked, feasible_plugin, possible_possible, left,
    Bool.false_eq_true, if_false]
  split
  · rfl
  split
  · rfl
  · exact congrArg (Except.map (Host.assign pod)) (scores_fst ..)

/-- **The contract between the host and a plugin.**  Under every script the attempt ends as the
first phase that fails says, or with an assignment to the best of the possible nodes, and the
calls are those of the phases up to there, each made with the nodes it is for.  The script has
recorded its part of them, watched or not.  A node that is ruled out only drops out. -/
theorem schedule_settled (script : Script) (pod : Pod) (nodes : List Node) (calls : List Call) :
    ∃ outcome visits,
      Host.schedule script.plugin pod nodes calls =
        (outcome, calls ++ visits.filterMap Visit.call?) ∧
      Host.schedule script.plugin.watched pod nodes (calls, []) =
        (outcome, calls ++ visits.filterMap Visit.call?, visits) ∧
      Settled script pod nodes outcome visits ∧
      (script.possible nodes ≠ [] →
        (Host.schedule script.plugin pod (script.possible nodes) calls).1 = outcome) := by
  obtain ⟨outcome, visits, watched, settled⟩ := settled_watched script pod nodes calls
  -- What is known of the watched attempt is known of the one that nobody watches.
  obtain ⟨seen, same⟩ := Host.schedule_watched script.plugin pod nodes calls []
  rw [watched] at same
  obtain ⟨first, second⟩ := Prod.mk.inj same
  have unwatched : Host.schedule script.plugin pod nodes calls =
      (outcome, calls ++ visits.filterMap Visit.call?) :=
    Prod.ext first.symm (Prod.mk.inj second).1.symm
  refine ⟨outcome, visits, unwatched, watched, settled, fun h => ?_⟩
  rw [← schedule_possible h, unwatched]

end Script

end Placement
