import Placement.Host

/-!
# Scripted plugins

A plugin whose reports are fixed in advance, and which remembers how it was called.

## Main definitions

* `Script` — what the plugin reports in each phase.
* `Call` — one call of a phase that sees all nodes at once.
* `Script.plugin` — the plugin.
-/

namespace Placement

/-- What a scripted plugin does with the scores in the end. -/
structure Rescaling where
  status : Status := .success
  /-- The scores it gives nodes, by name, in place of those they have. -/
  scores : Std.ExtTreeMap String Int := ∅

/-- What a scripted plugin reports in each phase.  Where a node is not named it
reports success, and a score of zero. -/
structure Script where
  preFilter : Status := .success
  filter : Std.ExtTreeMap String Status := ∅
  preScore : Status := .success
  score : Std.ExtTreeMap String Int := ∅
  scoreStatus : Std.ExtTreeMap String Status := ∅
  /-- What becomes of the scores, if anything. -/
  normalize : Option Rescaling := none

/-- A call of a phase that sees all nodes at once. -/
inductive Call where
  | preFilter (pod : String) (nodes : List String)
  | preScore (pod : String) (nodes : List String)
  | normalize (pod : String) (scores : List NodeScore)
  deriving DecidableEq

namespace Script

/-- The scores after a rescaling. -/
def rescale (r : Rescaling) (scores : List NodeScore) : List NodeScore :=
  scores.map fun s => { s with score := r.scores[s.name]?.getD s.score }

/-- The plugin that follows a script.  Its state is the calls so far, the first one
first; it does not log. -/
def plugin (script : Script) : Plugin (List Call) where
  preFilter pod nodes cycle calls :=
    (script.preFilter, cycle, calls ++ [.preFilter pod.name (nodes.map (·.name))])
  filter _ node _ calls := (script.filter[node.name]?.getD .success, calls)
  preScore pod nodes cycle calls :=
    (script.preScore, cycle, calls ++ [.preScore pod.name (nodes.map (·.name))])
  score _ node _ calls :=
    ((script.score[node.name]?.getD 0, script.scoreStatus[node.name]?.getD .success), calls)
  normalize := script.normalize.map fun r pod scores _ calls =>
    ((rescale r scores, r.status), calls ++ [.normalize pod.name scores])
  log _ calls := calls

end Script

end Placement
