import Placement.Text.Quoted

/-!
# Why a placement operation fails

## Main definitions

* `PlacementError` — the causes.
* `PlacementError.message` — their wording.
-/

namespace Placement

/-- The causes for which an operation on placements fails. -/
inductive PlacementError where
  /-- A target is a text that is no percentage. -/
  | invalidTargetSize (text : String)
  /-- A pod without an identifier cannot be tracked. -/
  | emptyUid (ns name : String)
  /-- The cluster could not be read; the message says why. -/
  | unreadable (message : String)
  deriving DecidableEq

/-- The wording of a cause. -/
def PlacementError.message : PlacementError → String
  | .invalidTargetSize text =>
    "invalid target size " ++ Text.quoted text ++
      ": must be an integer or a percentage such as \"50%\""
  | .emptyUid ns name => s!"cannot derive a key for pod {ns}/{name}: empty uid"
  | .unreadable message => message

end Placement
