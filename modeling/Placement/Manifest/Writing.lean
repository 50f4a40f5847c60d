import Placement.Object
import Placement.Yaml.Outline

/-!
# Writing manifests

## Main definitions

* `podOutline`, `policyOutline` — the fields of an object, in their fixed order.
* `writePod`, `writePolicy` — the text of its document.
-/

namespace Placement.Manifest

open Yaml (Outline)

/-- A map of labels, in the order of its keys. -/
def labelsOutline (labels : Labels) : Outline :=
  .mapping (labels.toList.map fun (key, value) => (key, .text value))

/-- The identity and labels of an object. -/
def metaOutline (identity : ObjectMeta) : Outline :=
  .mapping
    [("name", .text identity.name),
     ("namespace", .text identity.ns),
     ("uid", .text identity.uid),
     ("labels", labelsOutline identity.labels)]

/-- A selector. -/
def selectorOutline (selector : Labels) : Outline :=
  .mapping [("matchLabels", labelsOutline selector)]

/-- The word for a mode. -/
def modeWord : Mode → String
  | .bestEffort => "BestEffort"
  | .strict => "Strict"

/-- The word for an action. -/
def actionWord : Action → String
  | .must => "Must"
  | .mustNot => "MustNot"

/-- A target. -/
def targetOutline : TargetSize → Outline
  | .count n => .int n.toInt
  | .text s => .text s

/-- The fields of a pod. -/
def podOutline (pod : Pod) : List (String × Outline) :=
  [("metadata", metaOutline pod.toObjectMeta)]

/-- The fields of a policy. -/
def policyOutline (policy : Policy) : List (String × Outline) :=
  [("metadata", metaOutline policy.toObjectMeta),
   ("spec", .mapping
    [("weight", .int policy.weight.toInt),
     ("enforcementMode", .text (modeWord policy.mode)),
     ("podSelector", selectorOutline policy.podSelector),
     ("nodeSelector", selectorOutline policy.nodeSelector),
     ("policy", .mapping
      [("action", .text (actionWord policy.action)),
       ("targetSize", targetOutline policy.target)])])]

/-- The text of the document of a pod. -/
def writePod (pod : Pod) : String :=
  Outline.render (podOutline pod)

/-- The text of the document of a policy. -/
def writePolicy (policy : Policy) : String :=
  Outline.render (policyOutline policy)

end Placement.Manifest
