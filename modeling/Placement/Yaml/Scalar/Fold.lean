import Placement.Yaml.Character

/-!
# Joining the lines of a scalar

Outside blocks, a scalar may run over several lines.  Blanks around a line break
fall away.  A single break becomes a space, and of several the first falls away and
the rest stay.  The breaks of Unicode always stay.

## Main definitions

* `Gap` — blanks and breaks whose meaning the next character decides.
* `Gap.joined` — what a gap contributes to the scalar.
-/

namespace Placement.Yaml

/-- Blanks or line breaks inside a scalar.  All lists here are in reverse. -/
inductive Gap where
  | blanks (chars : List Char)
  /-- A first break, unless it was escaped, and the breaks after it. -/
  | broken (first : Option Char) (more : List Char)
  deriving DecidableEq

namespace Gap

/-- No gap. -/
def none : Gap := .blanks []

/-- Whether there is a line break in the gap. -/
def isBroken : Gap → Bool
  | blanks _ => false
  | broken .. => true

/-- Whether there is a gap. -/
def isSome : Gap → Bool
  | blanks [] => false
  | _ => true

/-- The gap with one more blank.  Blanks after a break do not count. -/
def blank (c : Char) : Gap → Gap
  | blanks chars => blanks (c :: chars)
  | broken first more => broken first more

/-- The gap with one more line break.  Blanks before it do not count. -/
def lineBreak (c : Char) : Gap → Gap
  | blanks _ => broken (some c) []
  | broken first more => broken first (c :: more)

/-- What comes before a gap, in reverse, followed by what the gap contributes. -/
def joined (before : List Char) : Gap → List Char
  | blanks chars => chars ++ before
  | broken (some '\n') [] => ' ' :: before
  | broken (some '\n') more => more ++ before
  | broken (some first) more => more ++ first :: before
  | broken Option.none more => more ++ before

end Gap

end Placement.Yaml
