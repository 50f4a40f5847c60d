import Placement.Object
import Placement.Yaml.Core
import Placement.Yaml.Document

/-!
# Reading manifests

Objects are stored as documents.  A mapping that describes an object may have any
fields besides those that are known, in any order; a known field must not come twice.
Nothing at all counts as an empty mapping.

## Main definitions

* `text?`, `fields?`, `labels?`, `texts?` — the readings common to all objects.
* `int32?`, `oneOf?`, `targetSize?` — numbers, words, and the target of a policy.
* `pod?`, `policy?` — the objects of a document.
* `readPod`, `readPolicy` — the objects of stored bytes.
-/

namespace Placement.Manifest

open Yaml (Document)

/-! ## Common readings -/

/-- The text of a scalar, however it is written. -/
def text? (d : Document) (node : Yaml.Node) : Option String :=
  match d.resolve node with
  | some (.scalar _ _ text) => some text
  | _ => none

/-- The entries of a mapping. -/
def entries? (d : Document) (node : Yaml.Node) : Option (List (Yaml.Node × Yaml.Node)) :=
  match d.resolve node with
  | some (.mapping entries) => some entries
  | some (.scalar _ .plain "") => some []
  | _ => none

/-- The entries of a mapping whose keys are texts. -/
def keyed? (d : Document) (node : Yaml.Node) : Option (List (String × Yaml.Node)) :=
  (entries? d node).bind fun entries =>
    entries.mapM fun (key, value) => (text? d key).map fun key => (key, value)

/-- The fields of a mapping that are among the known ones, none of which may come
twice. -/
def fields? (d : Document) (known : List String) (node : Yaml.Node) :
    Option (List (String × Yaml.Node)) :=
  (keyed? d node).bind fun entries =>
    let fields := entries.filter fun (key, _) => known.contains key
    if (fields.map (·.1)).Nodup then some fields else none

/-- A field that must be there. -/
def required {α : Type} (fields : List (String × Yaml.Node)) (name : String)
    (read : Yaml.Node → Option α) : Option α :=
  (fields.lookup name).bind read

/-- A field that has a value even when it is not there. -/
def optional {α : Type} (fields : List (String × Yaml.Node)) (name : String) (default : α)
    (read : Yaml.Node → Option α) : Option α :=
  match fields.lookup name with
  | none => some default
  | some node => read node

/-- The map of labels with these entries.  Of several with one key the last counts. -/
def labelsOf (entries : List (String × String)) : Labels :=
  entries.foldl (fun labels entry => labels.insert entry.1 entry.2) ∅

/-- A map of labels. -/
def labels? (d : Document) (node : Yaml.Node) : Option Labels := do
  let entries ← keyed? d node
  let texts ← entries.mapM fun (key, value) => (text? d value).map fun text => (key, text)
  return labelsOf texts

/-- A sequence of texts. -/
def texts? (d : Document) (node : Yaml.Node) : Option (List String) :=
  match d.resolve node with
  | some (.sequence items) => items.mapM (text? d)
  | some (.scalar _ .plain "") => some []
  | _ => none

/-! ## Numbers and words -/

/-- An integer, if it is one of 32 bits. -/
def toInt32? (n : Int) : Option Int32 :=
  if Text.Decimal.fitsInt32 n then some (Int32.ofInt n) else none

/-- A 32-bit integer: a plain scalar, or a literal one whose tag says so. -/
def int32? (d : Document) (node : Yaml.Node) : Option Int32 :=
  match d.resolve node with
  | some (.scalar tag style text) =>
    if style = .plain ∨ (style = .literal ∧ tag = some (.core "int")) then
      (Yaml.Core.integer? text.toList).bind toInt32?
    else none
  | _ => none

/-- One of several words: the text of a scalar, or else its tag when the scalar has
nothing to say. -/
def oneOf? {α : Type} (words : List (String × α)) (d : Document) (node : Yaml.Node) : Option α :=
  match d.resolve node with
  | some (.scalar tag style text) =>
    match tag.bind Yaml.Tag.word? with
    | none => words.lookup text
    | some word =>
      if style = .plain ∧ Yaml.Core.nullWords.contains text then words.lookup word else none
  | _ => none

/-- The words for a mode. -/
def modeWords : List (String × Mode) :=
  [("BestEffort", .bestEffort), ("Strict", .strict)]

/-- The words for an action. -/
def actionWords : List (String × Action) :=
  [("Must", .must), ("MustNot", .mustNot)]

/-- The target that a scalar without a meaningful tag tells: a count if it is an integer,
and its text if it is a text.  It must not be anything else, nor an integer of more than
32 bits. -/
def plainTarget? (text : String) : Option TargetSize :=
  match Yaml.Core.ofText text with
  | .int n => (toInt32? n).map .count
  | .text => some (.text text)
  | _ => none

/-- The types, besides that of integers, whose tags no target can have. -/
def barredTypes : List String :=
  ["bool", "float", "null"]

/-- The target that a scalar tells.  A tag can ask for an integer, or rule a target out.
Of the scalars with any other tag, plain ones are read as if they had none when the tag
begins as those that only its document knows. -/
def targetOf? (tag : Option Yaml.Tag) (style : Yaml.Style) (text : String) : Option TargetSize :=
  match tag with
  | none => if style = .plain then plainTarget? text else some (.text text)
  | some tag =>
    if tag.word?.isSome ∨ tag ∈ barredTypes.map Yaml.Tag.core then none
    else if tag = .core "int" then
      (((Yaml.Core.integer? text.toList).filter Yaml.Core.isReadable).bind toInt32?).map .count
    else if tag.isLocal ∧ style = .plain then plainTarget? text
    else some (.text text)

/-- The target of a policy. -/
def targetSize? (d : Document) (node : Yaml.Node) : Option TargetSize :=
  match d.resolve node with
  | some (.scalar tag style text) => targetOf? tag style text
  | _ => none

/-! ## Objects -/

/-- The identity and labels of an object. -/
def objectMeta? (d : Document) (node : Yaml.Node) : Option ObjectMeta := do
  let fields ← fields? d ["name", "namespace", "uid", "labels"] node
  let name ← required fields "name" (text? d)
  let ns ← optional fields "namespace" "" (text? d)
  let uid ← optional fields "uid" "" (text? d)
  let labels ← optional fields "labels" ∅ (labels? d)
  return { name := name, ns := ns, uid := uid, labels := labels }

/-- A selector. -/
def selector? (d : Document) (node : Yaml.Node) : Option Labels := do
  let fields ← fields? d ["matchLabels"] node
  optional fields "matchLabels" ∅ (labels? d)

/-- The action and the target of a policy. -/
def body? (d : Document) (node : Yaml.Node) : Option (Action × TargetSize) := do
  let fields ← fields? d ["action", "targetSize"] node
  let action ← optional fields "action" .must (oneOf? actionWords d)
  let target ← required fields "targetSize" (targetSize? d)
  return (action, target)

/-- A policy with an identity, from what is specified for it. -/
def specified? (d : Document) (identity : ObjectMeta) (node : Yaml.Node) : Option Policy := do
  let fields ←
    fields? d ["weight", "enforcementMode", "podSelector", "nodeSelector", "policy"] node
  let weight ← optional fields "weight" 0 (int32? d)
  let mode ← optional fields "enforcementMode" .bestEffort (oneOf? modeWords d)
  let podSelector ← optional fields "podSelector" ∅ (selector? d)
  let nodeSelector ← optional fields "nodeSelector" ∅ (selector? d)
  let (action, target) ← required fields "policy" (body? d)
  return { identity with
    weight := weight, mode := mode, podSelector := podSelector, nodeSelector := nodeSelector,
    action := action, target := target }

/-- The pod that a document describes. -/
def pod? (d : Document) : Option Pod := do
  let fields ← fields? d ["metadata"] d.root
  let identity ← required fields "metadata" (objectMeta? d)
  return { identity with }

/-- The policy that a document describes. -/
def policy? (d : Document) : Option Policy := do
  let fields ← fields? d ["metadata", "spec"] d.root
  let identity ← required fields "metadata" (objectMeta? d)
  required fields "spec" (specified? d identity)

/-- The document that stored bytes hold. -/
def document? (bytes : ByteArray) : Option Document :=
  (String.fromUTF8? bytes).bind Document.ofText

/-- The pod that stored bytes describe. -/
def readPod (bytes : ByteArray) : Option Pod :=
  (document? bytes).bind pod?

/-- The policy that stored bytes describe. -/
def readPolicy (bytes : ByteArray) : Option Policy :=
  (document? bytes).bind policy?

end Placement.Manifest
