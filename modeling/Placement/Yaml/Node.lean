import Placement.Yaml.Token

/-!
# Nodes

The nodes that the tokens of a document describe.  A reference to an anchor stays a
reference: which node it means is only settled for the whole document.

## Main definitions

* `Node` — a scalar, a collection or a reference.
* `Node.anchors` — the anchored nodes inside a node.
* `Node.ofTokens` — reads a node.
-/

namespace Placement.Yaml

/-- A node of a document.  Tags are kept for scalars only, since those of collections
decide nothing. -/
inductive Node where
  | scalar (tag : Option Tag) (style : Style) (text : String)
  | sequence (items : List Node)
  /-- A mapping, with its entries as written. -/
  | mapping (entries : List (Node × Node))
  /-- A reference to the anchor of that number. -/
  | alias (number : Nat)
  /-- A node that has the anchor of that number. -/
  | anchored (number : Nat) (node : Node)

namespace Node

/-- The node where none is written. -/
def blank : Node := .scalar none .plain ""

mutual

/-- The anchored nodes inside a node, in the order in which they begin. -/
def anchors : Node → List (Nat × Node)
  | .scalar .. => []
  | .sequence items => anchorsOfItems items
  | .mapping entries => anchorsOfEntries entries
  | .alias _ => []
  | .anchored number node => (number, node) :: node.anchors

/-- The anchored nodes inside the items of a sequence. -/
def anchorsOfItems : List Node → List (Nat × Node)
  | [] => []
  | item :: rest => item.anchors ++ anchorsOfItems rest

/-- The anchored nodes inside the entries of a mapping. -/
def anchorsOfEntries : List (Node × Node) → List (Nat × Node)
  | [] => []
  | (key, value) :: rest => key.anchors ++ (value.anchors ++ anchorsOfEntries rest)

end

end Node

/-! ## Reading nodes -/

/-- How the tags begin that each tag handle stands for. -/
abbrev TagHandles := List (String × Tag)

/-- The tokens that are left, and the numbers of the anchors so far by their names. -/
structure Feed where
  tokens : List Token
  /-- The numbers of the anchors. -/
  names : List (String × Nat) := []

namespace Feed

/-- What follows the next token. -/
def advance (feed : Feed) : Feed :=
  { feed with tokens := feed.tokens.drop 1 }

/-- Gives an anchor its number: how many names of anchors there were before, counting
each once.  A name that comes again means its last anchor. -/
def enroll (feed : Feed) (name : String) : Nat × Feed :=
  let number := feed.names.length
  (number, { feed with names := (name, number) :: feed.names.filter (·.1 ≠ name) })

end Feed

namespace Node

/-- The tag that a handle and the rest of it stand for. -/
def resolveTag (handles : TagHandles) (handle : String) (rest : Tag) : Option Tag :=
  if handle.isEmpty then some rest else (handles.lookup handle).map (· ++ rest)

/-- What is written before the content of a node. -/
structure Properties where
  anchor : Option String := none
  tag : Option Tag := none

/-- Reads an anchor and a tag, in either order; none, one or both are there. -/
def properties (handles : TagHandles) (feed : Feed) : Option (Properties × Feed) :=
  match feed.tokens with
  | .anchor name :: .tag handle suffix :: rest =>
    (resolveTag handles handle suffix).map fun tag =>
      (⟨some name, some tag⟩, { feed with tokens := rest })
  | .anchor name :: rest => some (⟨some name, none⟩, { feed with tokens := rest })
  | .tag handle suffix :: .anchor name :: rest =>
    (resolveTag handles handle suffix).map fun tag =>
      (⟨some name, some tag⟩, { feed with tokens := rest })
  | .tag handle suffix :: rest =>
    (resolveTag handles handle suffix).map fun tag =>
      (⟨none, some tag⟩, { feed with tokens := rest })
  | _ => some ({}, feed)

/-- Whether an entry of a block collection ends without content before this token. -/
def endsBlockEntry : Option Token → Bool
  | some .key | some .value | some .blockEnd => true
  | _ => false

/-- Whether an entry of a flow collection ends without content before this token. -/
def endsFlowEntry (close : Token) (token : Option Token) : Bool :=
  token = some .flowEntry || token = some close

mutual

/-- Reads a node.  Block collections are only read where `block` allows them, and a
sequence that is not indented only where `level` does.  `fuel` is more than twice the
number of tokens. -/
def ofTokens (handles : TagHandles) :
    (fuel : Nat) → (block level : Bool) → Feed → Option (Node × Feed)
  | 0, _, _, _ => none
  | fuel + 1, block, level, feed =>
    match feed.tokens with
    | .alias name :: rest =>
      (feed.names.lookup name).map fun number => (.alias number, { feed with tokens := rest })
    | _ =>
      match properties handles feed with
      | none => none
      | some (told, feed) =>
        match told.anchor with
        | none => content handles fuel block level told feed
        | some name =>
          let (number, feed) := feed.enroll name
          (content handles fuel block level told feed).map fun (node, feed) =>
            (.anchored number node, feed)

/-- Reads the content of a node, which may only be left out after an anchor or a
tag. -/
def content (handles : TagHandles) :
    (fuel : Nat) → (block level : Bool) → Properties → Feed → Option (Node × Feed)
  | 0, _, _, _, _ => none
  | fuel + 1, block, level, told, feed =>
    match feed.tokens with
    | .scalar style text :: rest =>
      some (.scalar told.tag style text, { feed with tokens := rest })
    | .flowSequence :: rest =>
      (flowItems handles fuel true { feed with tokens := rest }).map fun (items, feed) =>
        (.sequence items, feed)
    | .flowMapping :: rest =>
      (flowEntries handles fuel true { feed with tokens := rest }).map fun (entries, feed) =>
        (.mapping entries, feed)
    | token :: rest =>
      if level ∧ token = .blockEntry then
        (levelItems handles fuel feed).map fun (items, feed) => (.sequence items, feed)
      else if block ∧ token = .blockSequence then
        (blockItems handles fuel { feed with tokens := rest }).map fun (items, feed) =>
          (.sequence items, feed)
      else if block ∧ token = .blockMapping then
        (blockEntries handles fuel { feed with tokens := rest }).map fun (entries, feed) =>
          (.mapping entries, feed)
      else if told.anchor.isSome ∨ told.tag.isSome then some (.scalar told.tag .plain "", feed)
      else none
    | [] => none

/-- Reads the items of a block sequence. -/
def blockItems (handles : TagHandles) : (fuel : Nat) → Feed → Option (List Node × Feed)
  | 0, _ => none
  | fuel + 1, feed =>
    match feed.tokens with
    | .blockEnd :: _ => some ([], feed.advance)
    | .blockEntry :: _ =>
      let feed := feed.advance
      let next := feed.tokens.head?
      let item :=
        if next = some .blockEntry ∨ next = some .blockEnd then some (blank, feed)
        else ofTokens handles fuel true false feed
      match item with
      | none => none
      | some (item, feed) =>
        (blockItems handles fuel feed).map fun (items, feed) => (item :: items, feed)
    | _ => none

/-- Reads the items of a block sequence that is not indented deeper than the mapping
around it. -/
def levelItems (handles : TagHandles) : (fuel : Nat) → Feed → Option (List Node × Feed)
  | 0, _ => none
  | fuel + 1, feed =>
    match feed.tokens with
    | .blockEntry :: _ =>
      let feed := feed.advance
      let next := feed.tokens.head?
      let item :=
        if next = some .blockEntry ∨ endsBlockEntry next then some (blank, feed)
        else ofTokens handles fuel true false feed
      match item with
      | none => none
      | some (item, feed) =>
        (levelItems handles fuel feed).map fun (items, feed) => (item :: items, feed)
    | _ => some ([], feed)

/-- Reads the entries of a block mapping. -/
def blockEntries (handles : TagHandles) :
    (fuel : Nat) → Feed → Option (List (Node × Node) × Feed)
  | 0, _ => none
  | fuel + 1, feed =>
    match feed.tokens with
    | .blockEnd :: _ => some ([], feed.advance)
    | .key :: _ =>
      match blockPart handles fuel feed.advance with
      | none => none
      | some (key, feed) =>
        let value :=
          match feed.tokens with
          | .value :: _ => blockPart handles fuel feed.advance
          | _ => some (blank, feed)
        match value with
        | none => none
        | some (value, feed) =>
          (blockEntries handles fuel feed).map fun (entries, feed) => ((key, value) :: entries, feed)
    | _ => none

/-- Reads a key or a value of a block mapping, which may be left out. -/
def blockPart (handles : TagHandles) : (fuel : Nat) → Feed → Option (Node × Feed)
  | 0, _ => none
  | fuel + 1, feed =>
    if endsBlockEntry feed.tokens.head? then some (blank, feed)
    else ofTokens handles fuel true true feed

/-- Reads the items of a flow sequence.  An item may be a single pair. -/
def flowItems (handles : TagHandles) :
    (fuel : Nat) → (first : Bool) → Feed → Option (List Node × Feed)
  | 0, _, _ => none
  | fuel + 1, first, feed =>
    if feed.tokens.head? = some .flowSequenceEnd then some ([], feed.advance)
    else if !first ∧ feed.tokens.head? ≠ some .flowEntry then none
    else
      let feed := if first then feed else feed.advance
      let item :=
        match feed.tokens with
        | .flowSequenceEnd :: _ => none
        | .key :: _ => some (flowPair handles fuel feed.advance)
        | _ => some (ofTokens handles fuel false false feed)
      match item with
      | none => some ([], feed.advance)
      | some none => none
      | some (some (item, feed)) =>
        (flowItems handles fuel false feed).map fun (items, feed) => (item :: items, feed)

/-- Reads a pair that is an item of a flow sequence.  Where the key is left out, the
token that shows it is passed over. -/
def flowPair (handles : TagHandles) : (fuel : Nat) → Feed → Option (Node × Feed)
  | 0, _ => none
  | fuel + 1, feed =>
    let next := feed.tokens.head?
    let key :=
      if next = some .value ∨ endsFlowEntry .flowSequenceEnd next then some (blank, feed.advance)
      else ofTokens handles fuel false false feed
    match key with
    | none => none
    | some (key, feed) =>
      (flowValue handles fuel .flowSequenceEnd feed).map fun (value, feed) =>
        (.mapping [(key, value)], feed)

/-- Reads the value of a pair in a flow collection, which may be left out. -/
def flowValue (handles : TagHandles) :
    (fuel : Nat) → (close : Token) → Feed → Option (Node × Feed)
  | 0, _, _ => none
  | fuel + 1, close, feed =>
    match feed.tokens with
    | .value :: rest =>
      if endsFlowEntry close rest.head? then some (blank, feed.advance)
      else ofTokens handles fuel false false feed.advance
    | _ => some (blank, feed)

/-- Reads the entries of a flow mapping. -/
def flowEntries (handles : TagHandles) :
    (fuel : Nat) → (first : Bool) → Feed → Option (List (Node × Node) × Feed)
  | 0, _, _ => none
  | fuel + 1, first, feed =>
    if feed.tokens.head? = some .flowMappingEnd then some ([], feed.advance)
    else if !first ∧ feed.tokens.head? ≠ some .flowEntry then none
    else
      let feed := if first then feed else feed.advance
      let entry :=
        match feed.tokens with
        | .flowMappingEnd :: _ => none
        | .key :: _ => some (flowEntry handles fuel feed.advance)
        | _ => some ((ofTokens handles fuel false false feed).map fun (key, feed) =>
            ((key, blank), feed))
      match entry with
      | none => some ([], feed.advance)
      | some none => none
      | some (some (entry, feed)) =>
        (flowEntries handles fuel false feed).map fun (entries, feed) => (entry :: entries, feed)

/-- Reads an entry of a flow mapping, of which either part may be left out. -/
def flowEntry (handles : TagHandles) : (fuel : Nat) → Feed → Option ((Node × Node) × Feed)
  | 0, _ => none
  | fuel + 1, feed =>
    let next := feed.tokens.head?
    let key :=
      if next = some .value ∨ endsFlowEntry .flowMappingEnd next then some (blank, feed)
      else ofTokens handles fuel false false feed
    match key with
    | none => none
    | some (key, feed) =>
      (flowValue handles fuel .flowMappingEnd feed).map fun (value, feed) => ((key, value), feed)

end

end Node

end Placement.Yaml
