import Placement.Yaml.Tag

/-!
# Tokens of a YAML text

## Main definitions

* `Style` — the ways of writing a scalar.
* `Token` — the tokens.
-/

namespace Placement.Yaml

/-- The ways of writing a scalar. -/
inductive Style where
  | plain
  | single
  | double
  /-- As a block that keeps its lines. -/
  | literal
  /-- As a block whose lines are joined. -/
  | folded
  deriving DecidableEq

/-- The tokens of a text. -/
inductive Token where
  | streamEnd
  /-- A directive that names the version. -/
  | version (major minor : Nat)
  /-- A directive that gives a tag handle its meaning. -/
  | tagHandle (handle : String) (start : Tag)
  | documentStart
  | documentEnd
  | blockSequence
  | blockMapping
  | blockEnd
  | flowSequence
  | flowSequenceEnd
  | flowMapping
  | flowMappingEnd
  | blockEntry
  /-- The comma of a flow collection. -/
  | flowEntry
  | key
  | value
  | alias (name : String)
  | anchor (name : String)
  | tag (handle : String) (rest : Tag)
  | scalar (style : Style) (text : String)
  deriving DecidableEq

end Placement.Yaml
