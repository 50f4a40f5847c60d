import Placement.Text.Decimal
import Placement.Text.Quoted

/-!
# What a phase of scheduling reports

## Main definitions

* `Status` — success, or the kind of failure and its reasons.
* `NodeScore` — how well a node suits a pod.
* `Assignment` — the outcome of a successful attempt.
-/

namespace Placement

/-- The kinds of outcome of a phase. -/
inductive Code where
  | success
  | error
  /-- The pod cannot go where it was tried. -/
  | unschedulable
  deriving DecidableEq

/-- What a phase reports. -/
structure Status where
  code : Code := .success
  /-- Why the pod cannot go there. -/
  reasons : List String := []
  /-- What went wrong. -/
  err : String := ""
  plugin : String := ""
  deriving DecidableEq

namespace Status

/-- The report of a phase that went through. -/
def success : Status := {}

/-- The report that something went wrong. -/
def failure (err : String) : Status := { code := .error, err := err }

/-- The report that the pod cannot go there. -/
def unschedulable (reasons : List String) : Status := { code := .unschedulable, reasons := reasons }

/-- The same report under the name of who makes it. -/
def signedBy (status : Status) (plugin : String) : Status := { status with plugin := plugin }

/-- Whether the phase went through. -/
def isSuccess (status : Status) : Bool := status.code = .success

@[simp] theorem isSuccess_success : success.isSuccess = true := rfl

end Status

/-- A node, by name, and how well it suits a pod. -/
structure NodeScore where
  name : String
  /-- The higher the better. -/
  score : Int
  deriving DecidableEq

/-- A node score as messages show it. -/
def NodeScore.shown (s : NodeScore) : String :=
  "NodeScore \x7b name: " ++ Text.quoted s.name ++ ", score: " ++
    String.ofList (Text.Decimal.write s.score) ++ " \x7d"

/-- Where a pod goes, and how the nodes that were possible compared. -/
structure Assignment where
  pod : String
  node : String
  /-- The final scores of the nodes that were possible. -/
  scores : List NodeScore
  deriving DecidableEq

end Placement
