import Placement.Manifest.Reading

/-!
# Settings

Where the object store is, and under which keys it holds policies and pods.

## Main definitions

* `Settings` — the settings, with their defaults.
* `Settings.load` — reads them from the bytes of a file.
-/

namespace Placement

/-- Where the object store is, and what is where in it. -/
structure Settings where
  endpoints : List String := ["127.0.0.1:2379"]
  /-- What the keys of policies begin with; a namespace, a slash and a name follow. -/
  policyPrefix : String := "/registry/placementpolicies/"
  podPrefix : String := "/registry/pods/"
  deriving DecidableEq

/-- Why settings cannot be loaded. -/
inductive SettingsError where
  /-- There is no file at the path, or it is not text. -/
  | unreadable (path : String)
  /-- The file does not hold settings. -/
  | malformed
  deriving DecidableEq

/-- The wording of a cause. -/
def SettingsError.message : SettingsError → String
  | .unreadable path => s!"Failed to read config from {path}"
  | .malformed => "Failed to parse YAML config"

namespace Settings

open Manifest Yaml

/-- The settings that a node describes.  The addresses must be there. -/
def ofNode? (d : Document) (node : Yaml.Node) : Option Settings := do
  let standard : Settings := {}
  let fields ← fields? d ["endpoints", "policy_prefix", "pod_prefix"] node
  let endpoints ← required fields "endpoints" (texts? d)
  let policyPrefix ← optional fields "policy_prefix" standard.policyPrefix (text? d)
  let podPrefix ← optional fields "pod_prefix" standard.podPrefix (text? d)
  return ⟨endpoints, policyPrefix, podPrefix⟩

/-- The settings that a document describes. -/
def ofDocument? (d : Document) : Option Settings := do
  let fields ← fields? d ["xline_config"] d.root
  required fields "xline_config" (ofNode? d)

/-- The settings in the file at a path, whose bytes are given if there is one. -/
def load (path : String) (file : Option ByteArray) : Except SettingsError Settings :=
  match file.bind String.fromUTF8? with
  | none => .error (.unreadable path)
  | some text =>
    match (Document.ofText text).bind ofDocument? with
    | none => .error .malformed
    | some settings => .ok settings

end Settings

end Placement
