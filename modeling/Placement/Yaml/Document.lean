import Placement.Yaml.Lexer
import Placement.Yaml.Node

/-!
# Documents

A text holds one document.  Directives may come before it, and they need the mark
that opens a document after them.

## Main definitions

* `Document` — a node, with what its anchors mean.
* `Document.ofText` — the document of a text.
* `Document.resolve` — the node that a reference means.
-/

namespace Placement.Yaml

/-- A document: its node, and the nodes that have anchors. -/
structure Document where
  root : Node
  /-- The anchored nodes, in the order in which they begin. -/
  anchors : List (Nat × Node)

namespace Document

/-- The document with a node. -/
def ofNode (root : Node) : Document := ⟨root, root.anchors⟩

/-- The node that a reference means: of those with the number of its anchor, the one
that begins last.  Any other node means itself. -/
def resolve (document : Document) : Node → Option Node
  | .alias number => (document.anchors.reverse.lookup number)
  | .anchored _ node => some node
  | node => some node

/-- The tag handles that need no directive. -/
def builtinHandles : TagHandles :=
  [("!", .mark), ("!!", .core "")]

/-- Reads the directives before a document, of which there may be one for the version
and one for each tag handle. -/
def directives : List Token → (versioned : Bool) → TagHandles → Option (TagHandles × List Token)
  | .version major minor :: rest, versioned, handles =>
    if versioned ∨ major ≠ 1 ∨ (minor ≠ 1 ∧ minor ≠ 2) then none
    else directives rest true handles
  | .tagHandle handle uri :: rest, versioned, handles =>
    if (handles.lookup handle).isSome then none
    else directives rest versioned ((handle, uri) :: handles)
  | rest, _, handles => some (handles, rest)

/-- Whether a document is over before this token. -/
def endsDocument : Option Token → Bool
  | some (.version ..) | some (.tagHandle ..) | some .documentStart | some .documentEnd
  | some .streamEnd => true
  | _ => false

/-- The node of a document whose tokens come next. -/
def node (handles : TagHandles) (tokens : List Token) : Option (Node × List Token) :=
  (Node.ofTokens (handles ++ builtinHandles) (2 * tokens.length + 4) true false
    { tokens := tokens }).map fun (node, feed) => (node, feed.tokens)

/-- Reads the first document. -/
def first (tokens : List Token) : Option (Node × List Token) :=
  match tokens with
  | .streamEnd :: _ => none
  | .version .. :: _ | .tagHandle .. :: _ | .documentStart :: _ =>
    match directives tokens false [] with
    | some (handles, .documentStart :: rest) =>
      if endsDocument rest.head? then some (.blank, rest) else node handles rest
    | _ => none
  | _ => node [] tokens

/-- The document that tokens describe: the first, which must be the only one. -/
def ofTokens (tokens : List Token) : Option Document :=
  match first tokens with
  | none => none
  | some (root, rest) =>
    match rest.dropWhile (· = .documentEnd) with
    | [.streamEnd] => some (ofNode root)
    | _ => none

/-- The document that a text holds.  There is none if the text holds a character that
it may not, cannot be split into tokens, or holds no document or several. -/
def ofText (text : String) : Option Document :=
  let chars := text.toList
  if chars.all isAllowed then (Token.ofText (unifyBreaks chars)).bind ofTokens else none

end Document

end Placement.Yaml
