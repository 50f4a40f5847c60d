/-!
# Characters of a YAML text

Which characters a text may hold, where its lines break, and where in the text one
is.

## Main definitions

* `isBlank`, `isBreak`, `isWord` — classes of characters.
* `endsWord` — a blank, a break or the end of the text comes next.
* `isAllowed` — the character may be in a text at all.
* `unifyBreaks` — the text with one spelling for each line break.
* `Place` — a position in the text.
-/

namespace Placement.Yaml

/-- The line separator of Unicode. -/
def lineSeparator : Char := '\u2028'

/-- The paragraph separator of Unicode. -/
def paragraphSeparator : Char := '\u2029'

/-- The control that also breaks a line. -/
def nextLine : Char := '\x85'

/-- The mark that may open a text. -/
def byteOrderMark : Char := '\uFEFF'

/-- A space or a tab. -/
def isBlank (c : Char) : Bool :=
  c == ' ' || c == '\t'

/-- A line break, in a text whose breaks are unified. -/
def isBreak (c : Char) : Bool :=
  c == '\n' || c == lineSeparator || c == paragraphSeparator

/-- A blank or a line break. -/
def isSpacing (c : Char) : Bool :=
  isBlank c || isBreak c

/-- A letter or digit of ASCII, a hyphen or an underscore. -/
def isWord (c : Char) : Bool :=
  c.isAlphanum || c == '_' || c == '-'

/-- Whether a blank, a break or the end of the text comes next. -/
def endsWord : List Char → Bool
  | [] => true
  | c :: _ => isSpacing c

/-- Whether a break or the end of the text comes next. -/
def endsLine : List Char → Bool
  | [] => true
  | c :: _ => isBreak c

/-- Whether a text may hold the character. -/
def isAllowed (c : Char) : Bool :=
  c == '\t' || c == '\n' || c == '\r' || (' ' ≤ c && c ≤ '~') || c == nextLine ||
    ('\xA0' ≤ c && c.toNat ≤ 0xFFFD) || 0x10000 ≤ c.toNat

/-- The text with a line feed for each carriage return, pair of carriage return and
line feed, and next-line control.  The two separators of Unicode stay. -/
def unifyBreaks : List Char → List Char
  | [] => []
  | '\r' :: '\n' :: rest => '\n' :: unifyBreaks rest
  | c :: rest => (if c == '\r' || c == nextLine then '\n' else c) :: unifyBreaks rest

/-- Whether the text goes on with a mark that separates documents, `---` or `...`,
on its own. -/
def atDocumentMark : List Char → Bool
  | '-' :: '-' :: '-' :: rest => endsWord rest
  | '.' :: '.' :: '.' :: rest => endsWord rest
  | _ => false

/-- A position in a text. -/
structure Place where
  /-- The bytes before, of which a line break counts as one. -/
  index : Nat := 0
  line : Nat := 0
  column : Nat := 0
  deriving DecidableEq

namespace Place

/-- The position after a character of the same line. -/
def past (p : Place) (c : Char) : Place :=
  { p with index := p.index + c.utf8Size, column := p.column + 1 }

/-- The position after some characters of the same line. -/
def pastAll (p : Place) (chars : List Char) : Place :=
  chars.foldl past p

/-- The position after a line break. -/
def newline (p : Place) : Place where
  index := p.index + 1
  line := p.line + 1
  column := 0

end Place

end Placement.Yaml
