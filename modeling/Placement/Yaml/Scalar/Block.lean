import Placement.Yaml.Scalar.Plain

/-!
# Block scalars

A block scalar is a header and the lines below it that are indented enough.  The
header may tell how many line breaks to keep at the end and how deep the lines are
indented; otherwise one break is kept and the first line that is not empty tells.

## Main definitions

* `Scalar.Header` — what the header tells.
* `Scalar.block` — reads a block scalar from its header on.
-/

namespace Placement.Yaml.Scalar

/-- What becomes of the line breaks at the end. -/
inductive Chomping where
  /-- None is kept. -/
  | strip
  /-- The first is kept. -/
  | clip
  /-- All are kept. -/
  | keep
  deriving DecidableEq

/-- What the header of a block scalar tells. -/
structure Header where
  /-- What becomes of the breaks at the end. -/
  chomping : Chomping := .clip
  /-- How much deeper than their surroundings the lines are. -/
  depth : Option Nat := none
  deriving DecidableEq

/-- The chomping that a sign stands for. -/
def chomping? : Char → Option Chomping
  | '+' => some .keep
  | '-' => some .strip
  | _ => none

/-- The depth that a digit stands for; a zero is refused. -/
def depth? (c : Char) : Option Nat :=
  if '1' ≤ c ∧ c ≤ '9' then some (c.toNat - '0'.toNat) else none

/-- Reads the sign and the digit of a header, in either order, and gives what
follows them. -/
def header : List Char → Option (Header × List Char)
  | [] => some ({}, [])
  | c :: rest =>
    match chomping? c with
    | some chomping =>
      match rest with
      | d :: more =>
        if d.isDigit then (depth? d).map fun depth => (⟨chomping, some depth⟩, more)
        else some (⟨chomping, none⟩, rest)
      | [] => some (⟨chomping, none⟩, [])
    | none =>
      if c.isDigit then
        match depth? c with
        | none => none
        | some depth =>
          match rest with
          | d :: more =>
            match chomping? d with
            | some chomping => some (⟨chomping, some depth⟩, more)
            | none => some (⟨.clip, some depth⟩, rest)
          | [] => some (⟨.clip, some depth⟩, [])
      else some ({}, c :: rest)

/-- Passes over blanks, and then over a comment. -/
def skipComment (p : Place) (text : List Char) : Place × List Char :=
  let p := p.pastAll (text.takeWhile isBlank)
  let after := text.dropWhile isBlank
  match after with
  | '#' :: _ =>
    (p.pastAll (after.takeWhile fun c => !isBreak c), after.dropWhile fun c => !isBreak c)
  | _ => (p, after)

/-- The first lines of a block whose indentation is not known yet, as far as they are
empty. -/
structure Opening where
  /-- The most spaces on a line so far. -/
  deepest : Nat
  /-- The line breaks, in reverse. -/
  breaks : List Char
  place : Place
  rest : List Char

/-- Passes over the empty lines that open a block. -/
def opening : List Char → Place → Nat → List Char → Option Opening
  | [], p, deepest, breaks => some ⟨max deepest p.column, breaks, p, []⟩
  | c :: rest, p, deepest, breaks =>
    if c = ' ' then opening rest (p.past c) deepest breaks
    else if c = '\t' then none
    else if isBreak c then opening rest p.newline (max deepest p.column) (c :: breaks)
    else some ⟨max deepest p.column, breaks, p, c :: rest⟩

/-- A block as far as it has been read.  All lists are in reverse. -/
structure Lines where
  text : List Char := []
  /-- The break after the last line that is not empty. -/
  lineEnd : List Char := []
  /-- The breaks of the empty lines after it. -/
  empties : List Char := []
  /-- Whether that line began with a blank. -/
  indented : Bool := false

/-- The text before another line.  In a folded block the break between two lines
that do not begin with a blank becomes a space, or falls away before empty lines. -/
def Lines.beforeLine (lines : Lines) (folded startsBlank : Bool) : List Char :=
  if folded ∧ lines.lineEnd = ['\n'] ∧ !lines.indented ∧ !startsBlank then
    if lines.empties = [] then ' ' :: lines.text else lines.empties ++ lines.text
  else lines.empties ++ (lines.lineEnd ++ lines.text)

/-- The text of a whole block. -/
def Lines.chomped (lines : Lines) : Chomping → List Char
  | .strip => lines.text.reverse
  | .clip => (lines.lineEnd ++ lines.text).reverse
  | .keep => (lines.empties ++ (lines.lineEnd ++ lines.text)).reverse

/-- Reads the lines of a block that are indented by `indent`; `inside` says whether
the position is inside such a line. -/
def lines (folded : Bool) (indent : Nat) (chomping : Chomping) :
    List Char → Place → (inside : Bool) → Lines → Option Read
  | [], p, _, lines => some ⟨lines.chomped chomping, false, p, []⟩
  | c :: rest, p, true, read =>
    if isBreak c then
      lines folded indent chomping rest p.newline false { read with lineEnd := [c], empties := [] }
    else lines folded indent chomping rest (p.past c) true { read with text := c :: read.text }
  | c :: rest, p, false, read =>
    if c = ' ' ∧ p.column < indent then lines folded indent chomping rest (p.past c) false read
    else if c = '\t' ∧ p.column < indent then none
    else if isBreak c then
      lines folded indent chomping rest p.newline false { read with empties := c :: read.empties }
    else if p.column = indent then
      let startsBlank := isBlank c
      lines folded indent chomping rest (p.past c) true
        { text := c :: read.beforeLine folded startsBlank, indented := startsBlank }
    else some ⟨read.chomped chomping, false, p, c :: rest⟩

/-- Reads a block scalar after its sign, inside a collection that is indented by
`parent`. -/
def block (folded : Bool) (parent : Int) (p : Place) (text : List Char) : Option Read :=
  match header text with
  | none => none
  | some (told, rest) =>
    let (p, rest) := skipComment (p.pastAll (text.take (text.length - rest.length))) rest
    if !endsLine rest then none
    else
      let (p, rest) :=
        match rest with
        | [] => (p, [])
        | _ :: more => (p.newline, more)
      match told.depth with
      | some depth =>
        lines folded ((max parent 0).toNat + depth) told.chomping rest p false {}
      | none =>
        match opening rest p 0 [] with
        | none => none
        | some first =>
          let indent := max first.deepest (max (parent + 1) 1).toNat
          lines folded indent told.chomping first.rest first.place false
            { empties := first.breaks }

end Placement.Yaml.Scalar
