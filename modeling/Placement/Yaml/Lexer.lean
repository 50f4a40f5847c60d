import Placement.Yaml.Property

/-!
# The tokens of a text

Tokens are read from left to right.  In blocks the indentation opens and closes
collections.  That a scalar or a flow collection is a key only shows at the colon
after it, so that the tokens before it are put in afterwards.

## Main definitions

* `Candidate` — a place where a key may have begun.
* `Lexer` — a text of which some tokens have been read.
* `Lexer.read` — reads one token.
* `Token.ofText` — the tokens of a text.
-/

namespace Placement.Yaml

/-- A place where a key may have begun. -/
structure Candidate where
  /-- Whether nothing but a key can be there. -/
  needed : Bool
  /-- How many tokens were read before. -/
  number : Nat
  place : Place
  deriving DecidableEq

/-- A text of which some tokens have been read. -/
structure Lexer where
  /-- The indentation of the innermost block collection; less than zero outside. -/
  indent : Int := -1
  /-- The indentations around it, from the inside. -/
  outer : List Int := []
  /-- Whether a key may begin here. -/
  keyAllowed : Bool := true
  /-- Where a key may have begun in the innermost flow collection. -/
  candidate : Option Candidate := none
  /-- The same for what is around each flow collection, from the inside. -/
  suspended : List (Option Candidate) := []
  /-- The tokens, in reverse. -/
  tokens : List Token := []
  place : Place := {}
  rest : List Char

namespace Lexer

/-- Whether the position is inside a flow collection. -/
def inFlow (l : Lexer) : Bool :=
  !l.suspended.isEmpty

/-- Adds a token. -/
def emit (l : Lexer) (token : Token) : Lexer :=
  { l with tokens := token :: l.tokens }

/-- Puts a token in so that `number` tokens are before it. -/
def emitAt (l : Lexer) (number : Nat) (token : Token) : Lexer :=
  let later := l.tokens.length - number
  { l with tokens := l.tokens.take later ++ token :: l.tokens.drop later }

/-- Moves on by some characters of the line. -/
def skip (l : Lexer) (count : Nat) : Lexer :=
  { l with place := l.place.pastAll (l.rest.take count), rest := l.rest.drop count }

/-- Moves on to what follows something that was read on the line. -/
def moveTo (l : Lexer) (rest : List Char) : Lexer :=
  { l with place := l.place.pastAll (l.rest.take (l.rest.length - rest.length)), rest := rest }

/-- Sets whether a key may begin here. -/
def allowKey (l : Lexer) (allowed : Bool) : Lexer :=
  { l with keyAllowed := allowed }

/-! ## Keys -/

/-- Gives up that a key may have begun, which fails where only a key can be. -/
def dropCandidate (l : Lexer) : Option Lexer :=
  match l.candidate with
  | some candidate => if candidate.needed then none else some { l with candidate := none }
  | none => some l

/-- Notes that a key may begin here. -/
def markCandidate (l : Lexer) : Option Lexer :=
  if l.keyAllowed then
    l.dropCandidate.map fun l =>
      { l with candidate := some ⟨!l.inFlow && l.indent == l.place.column, l.tokens.length, l.place⟩ }
  else some l

/-- A key is at most one line and so many bytes long. -/
def keyLimit : Nat := 1024

/-- What is left of a candidate at a position: one on an earlier line, or too far
back, is none any more, and must not have been needed. -/
def renew (p : Place) (candidate : Option Candidate) : Option (Option Candidate) :=
  match candidate with
  | none => some none
  | some c =>
    if c.place.line < p.line ∨ c.place.index + keyLimit < p.index then
      if c.needed then none else some none
    else some (some c)

/-- Drops the candidates that are none any more. -/
def renewCandidates (l : Lexer) : Option Lexer :=
  match renew l.place l.candidate, l.suspended.mapM (renew l.place) with
  | some candidate, some suspended => some { l with candidate := candidate, suspended := suspended }
  | _, _ => none

/-! ## Block collections -/

/-- Opens a block collection at a column that is deeper than the innermost one, with
`number` tokens before it. -/
def openBlock (l : Lexer) (column number : Nat) (token : Token) : Lexer :=
  if l.inFlow then l
  else if l.indent < column then
    { l.emitAt number token with indent := column, outer := l.indent :: l.outer }
  else l

/-- Opens a block collection here, where only a key or an entry may be. -/
def openBlockHere (l : Lexer) (token : Token) : Option Lexer :=
  if l.inFlow then some l
  else if l.keyAllowed then some (l.openBlock l.place.column l.tokens.length token)
  else none

/-- Pops the indentations that are deeper than a column. -/
def unwind (column : Int) : Int → List Int → List Token → Int × List Int × List Token
  | indent, [], tokens => (indent, [], tokens)
  | indent, around :: outer, tokens =>
    if column < indent then unwind column around outer (.blockEnd :: tokens)
    else (indent, around :: outer, tokens)

/-- Closes the block collections that are deeper than a column. -/
def closeBlocks (l : Lexer) (column : Int) : Lexer :=
  if l.inFlow then l
  else
    let (indent, outer, tokens) := unwind column l.indent l.outer l.tokens
    { l with indent := indent, outer := outer, tokens := tokens }

/-! ## Between tokens -/

/-- Passes over blanks, comments and line breaks, and over a byte order mark that begins
a line.  A tab only counts as a blank where it cannot be mistaken for indentation.  In a
block a key may begin on a new line. -/
def spacing (flow : Bool) :
    List Char → Place → (allowed comment : Bool) → List Char × Place × Bool
  | [], p, allowed, _ => ([], p, allowed)
  | c :: rest, p, allowed, comment =>
    if isBreak c then spacing flow rest p.newline (allowed || !flow) false
    else if comment then spacing flow rest (p.past c) allowed true
    else if c = ' ' ∨ (c = '\t' ∧ (flow ∨ !allowed)) ∨ (c = byteOrderMark ∧ p.column = 0) then
      spacing flow rest (p.past c) allowed false
    else if c = '#' then spacing flow rest (p.past c) allowed true
    else (c :: rest, p, allowed)

/-- Moves on to the next token, and closes the blocks that end before it. -/
def settle (l : Lexer) : Option Lexer :=
  let (rest, place, allowed) := spacing l.inFlow l.rest l.place l.keyAllowed false
  let l := { l with rest := rest, place := place, keyAllowed := allowed }
  l.renewCandidates.map fun l => l.closeBlocks l.place.column

/-! ## One token -/

/-- Ends everything that a new document, a directive or the end of the text ends. -/
def endDocument (l : Lexer) : Option Lexer :=
  (l.closeBlocks (-1)).dropCandidate.map (·.allowKey false)

/-- Passes over the rest of a line, on which there is only a comment. -/
def endLine (l : Lexer) : Option Lexer :=
  let (p, rest) := Scalar.skipComment l.place l.rest
  match rest with
  | [] => some { l with place := p, rest := [] }
  | c :: more => if isBreak c then some { l with place := p.newline, rest := more } else none

/-- Reads a directive. -/
def readDirective (l : Lexer) : Option Lexer := do
  let l ← l.endDocument
  let read ← Property.directive (l.rest.drop 1)
  ((l.moveTo read.rest).emit read.value).endLine

/-- Reads a mark that separates documents. -/
def readDocumentMark (l : Lexer) : Option Lexer := do
  let l ← l.endDocument
  let token : Token := if l.rest.head? = some '-' then .documentStart else .documentEnd
  return (l.skip 3).emit token

/-- Opens a flow collection. -/
def openFlow (l : Lexer) (token : Token) : Option Lexer := do
  let l ← l.markCandidate
  let l := { l with candidate := none, suspended := l.candidate :: l.suspended }
  return ((l.allowKey true).skip 1).emit token

/-- Closes a flow collection. -/
def closeFlow (l : Lexer) (token : Token) : Option Lexer := do
  let l ← l.dropCandidate
  let l :=
    match l.suspended with
    | [] => l
    | around :: suspended => { l with candidate := around, suspended := suspended }
  return ((l.allowKey false).skip 1).emit token

/-- Reads the comma of a flow collection. -/
def readFlowEntry (l : Lexer) : Option Lexer := do
  let l ← l.dropCandidate
  return ((l.allowKey true).skip 1).emit .flowEntry

/-- Reads the hyphen of a block sequence. -/
def readBlockEntry (l : Lexer) : Option Lexer := do
  let l ← l.openBlockHere .blockSequence
  let l ← l.dropCandidate
  return ((l.allowKey true).skip 1).emit .blockEntry

/-- Reads the question mark before a key. -/
def readKey (l : Lexer) : Option Lexer := do
  let l ← l.openBlockHere .blockMapping
  let l ← l.dropCandidate
  return ((l.allowKey !l.inFlow).skip 1).emit .key

/-- Reads the colon before a value.  If a key may have begun, it did. -/
def readValue (l : Lexer) : Option Lexer :=
  match l.candidate with
  | some key =>
    let l := (l.emitAt key.number .key).openBlock key.place.column key.number .blockMapping
    some (({ l with candidate := none, keyAllowed := false }.skip 1).emit .value)
  | none =>
    (l.openBlockHere .blockMapping).map fun l => ((l.allowKey !l.inFlow).skip 1).emit .value

/-- Reads an anchor or a reference to one. -/
def readName (l : Lexer) (token : String → Token) : Option Lexer := do
  let l ← l.markCandidate
  let read ← Property.name (l.rest.drop 1)
  return ((l.allowKey false).moveTo read.rest).emit (token read.value)

/-- Reads a tag. -/
def readTag (l : Lexer) : Option Lexer := do
  let l ← l.markCandidate
  let read ← Property.tag l.inFlow (l.rest.drop 1)
  return ((l.allowKey false).moveTo read.rest).emit read.value

/-- Adds a scalar that was read. -/
def addScalar (l : Lexer) (style : Style) (read : Scalar.Read) : Lexer :=
  { l with place := read.place, rest := read.rest }.emit
    (.scalar style (String.ofList read.text))

/-- Reads a block scalar. -/
def readBlockScalar (l : Lexer) (style : Style) : Option Lexer := do
  let l ← l.dropCandidate
  let l := l.skip 1
  let read ← Scalar.block (style = .folded) l.indent l.place l.rest
  return (l.allowKey true).addScalar style read

/-- Reads a quoted scalar. -/
def readQuoted (l : Lexer) (style : Style) : Option Lexer := do
  let l ← l.markCandidate
  let l := l.skip 1
  let read ←
    if style = .single then Scalar.single l.rest l.place .none []
    else Scalar.double l.rest l.place none .none []
  return (l.allowKey false).addScalar style read

/-- Reads a plain scalar.  After a line break a key may begin. -/
def readPlain (l : Lexer) : Option Lexer := do
  let l ← l.markCandidate
  let read ← Scalar.plain l.inFlow (l.indent + 1) l.rest l.place .none []
  return (l.allowKey read.lineEnded).addScalar .plain read

/-- Whether a plain scalar can begin with a character that has no meaning of its own
where it stands. -/
def startsPlain (flow : Bool) (c : Char) (rest : List Char) : Bool :=
  match c with
  | '-' =>
    match rest with
    | d :: _ => !isBlank d
    | [] => true
  | '?' | ':' => !flow && !endsWord rest
  | c => !isSpacing c && !",[]\x7b\x7d#&*!|>'\"%@\x60".toList.contains c

/-- Reads one token. -/
def read (l : Lexer) : Option Lexer :=
  match l.rest with
  | [] => none
  | c :: rest =>
    let flow := l.inFlow
    if l.place.column = 0 ∧ c = '%' then l.readDirective
    else if l.place.column = 0 ∧ atDocumentMark l.rest then l.readDocumentMark
    else if c = '[' then l.openFlow .flowSequence
    else if c = '\x7b' then l.openFlow .flowMapping
    else if c = ']' then l.closeFlow .flowSequenceEnd
    else if c = '\x7d' then l.closeFlow .flowMappingEnd
    else if c = ',' then l.readFlowEntry
    else if c = '-' ∧ endsWord rest then l.readBlockEntry
    else if c = '?' ∧ (flow ∨ endsWord rest) then l.readKey
    else if c = ':' ∧ (flow ∨ endsWord rest) then l.readValue
    else if c = '*' then l.readName .alias
    else if c = '&' then l.readName .anchor
    else if c = '!' then l.readTag
    else if c = '|' ∧ !flow then l.readBlockScalar .literal
    else if c = '>' ∧ !flow then l.readBlockScalar .folded
    else if c = '\'' then l.readQuoted .single
    else if c = '"' then l.readQuoted .double
    else if startsPlain flow c rest then l.readPlain
    else none

/-- Reads tokens until the text ends; `fuel` is more than the tokens that are left. -/
def readAll : (fuel : Nat) → Lexer → Option (List Token)
  | 0, _ => none
  | fuel + 1, l =>
    match l.settle with
    | none => none
    | some l =>
      if l.rest.isEmpty then l.endDocument.map fun l => (Token.streamEnd :: l.tokens).reverse
      else l.read.bind (readAll fuel)

end Lexer

/-- The tokens of a text whose line breaks are unified, if it can be split into
tokens. -/
def Token.ofText (text : List Char) : Option (List Token) :=
  Lexer.readAll (text.length + 1) { rest := text }

end Placement.Yaml
