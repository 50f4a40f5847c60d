import Placement.Error
import Placement.Object
import Placement.Text.Decimal

/-!
# How many pods a policy wants on its nodes

A target is a count or a percentage of the qualifying pods, rounded down.  An
action that keeps pods away inverts it, so that the result always counts pods on
the selected nodes.  The result is exact and not clamped: it may be negative or
exceed the number of pods there are.

## Main definitions

* `TargetSize.percent?` — the percentage a text stands for.
* `TargetSize.share` — the number of pods the target itself speaks of.
* `TargetSize.required` — the number of pods wanted on the selected nodes.
-/

namespace Placement.TargetSize

/-- The text of a target: its digits, or the text it was written as. -/
def display : TargetSize → String
  | .count n => String.ofList (Text.Decimal.write n.toInt)
  | .text s => s

/-- The percentage a text stands for: an integer of 32 bits, then one percent
sign. -/
def percent? (text : String) : Option Int32 :=
  match text.toList.reverse with
  | '%' :: number => Text.Decimal.readInt32? number.reverse
  | _ => none

/-- The number of pods a target speaks of when `qualifying` pods qualify. -/
def share (target : TargetSize) (qualifying : Nat) : Except PlacementError Int :=
  match target with
  | .count n => .ok n.toInt
  | .text s =>
    match percent? s with
    | some percent => .ok (percent.toInt * qualifying / 100)
    | none => .error (.invalidTargetSize s)

/-- The number of pods wanted on the selected nodes when `qualifying` pods
qualify. -/
def required (target : TargetSize) (qualifying : Nat) (action : Action) :
    Except PlacementError Int :=
  (target.share qualifying).map fun raw =>
    match action with
    | .must => raw
    | .mustNot => qualifying - raw

/-- Whether the target can be computed at all: a count, or a percentage. -/
def WellFormed : TargetSize → Prop
  | .count _ => True
  | .text s => (percent? s).isSome

instance : DecidablePred WellFormed := fun target => by
  cases target <;> unfold WellFormed <;> infer_instance

end Placement.TargetSize
