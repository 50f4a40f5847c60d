import Placement.Yaml.Scalar.Fold

/-!
# Plain scalars

A plain scalar ends before a colon that a blank follows, before a hash sign that
follows a blank, in a flow collection before its punctuation, and in a block where
a line is not indented enough.

## Main definitions

* `Scalar.plain` — reads a plain scalar.
-/

namespace Placement.Yaml.Scalar

/-- The punctuation of flow collections. -/
def isFlowMark (c : Char) : Bool :=
  c == ',' || c == '[' || c == ']' || c == '\x7b' || c == '\x7d'

/-- A scalar that was read: its text, whether it ended after a line break, and where
the text goes on. -/
structure Read where
  text : List Char
  /-- Whether a line break stands between the scalar and what follows. -/
  lineEnded : Bool := false
  place : Place
  rest : List Char

/-- Whether a character in a flow collection may not follow a colon inside a plain
scalar. -/
def crowdsColon : List Char → Bool
  | c :: _ => isFlowMark c || c == '?'
  | [] => false

/-- Reads a plain scalar; what was read of it already is in reverse.  Below `indent`
a line of a block does not belong to it any more. -/
def plain (flow : Bool) (indent : Int) : List Char → Place → Gap → List Char → Option Read
  | [], p, gap, read => some ⟨read.reverse, gap.isBroken, p, []⟩
  | c :: rest, p, gap, read =>
    if isBlank c then
      if gap.isBroken ∧ p.column < indent ∧ c = '\t' then none
      else plain flow indent rest (p.past c) (gap.blank c) read
    else if isBreak c then plain flow indent rest p.newline (gap.lineBreak c) read
    else if gap.isSome ∧ ((!flow ∧ p.column < indent) ∨ c = '#' ∨
        (p.column = 0 ∧ atDocumentMark (c :: rest))) then
      some ⟨read.reverse, gap.isBroken, p, c :: rest⟩
    else if flow ∧ c = ':' ∧ crowdsColon rest then none
    else if (c = ':' ∧ endsWord rest) ∨ (flow ∧ isFlowMark c) then
      some ⟨read.reverse, gap.isBroken, p, c :: rest⟩
    else plain flow indent rest (p.past c) .none (c :: gap.joined read)

end Placement.Yaml.Scalar
