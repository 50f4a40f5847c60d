import Placement.Yaml.Core
import Placement.Yaml.Token

/-!
# Writing documents

A document is written as nested block mappings of scalars.  Each text is written in
the plainest way in which it reads back as itself: without quotes if nothing in it
has a meaning, as a literal block if it has several lines, and between double quotes
if it holds characters that cannot stand as they are.

## Main definitions

* `Outline` — a document to be written.
* `Outline.style` — the way in which a text is written.
* `Outline.render` — the text of a document.
-/

namespace Placement.Yaml

/-- A document to be written. -/
inductive Outline where
  | int (value : Int)
  | text (text : String)
  /-- A mapping, with its entries in the order in which they are written. -/
  | mapping (entries : List (String × Outline))

namespace Outline

/-! ## Which way a text can be written -/

/-- Whether a character breaks a line, before breaks are unified. -/
def breaksLine (c : Char) : Bool :=
  isBreak c || c == '\r' || c == nextLine

/-- Whether a blank, a break or the end comes next, before breaks are unified. -/
def endsBefore : List Char → Bool
  | [] => true
  | c :: _ => isBlank c || breaksLine c

/-- Whether a character can stand as it is. -/
def isPrintable (c : Char) : Bool :=
  c == '\n' || (' ' ≤ c && c ≤ '~') || ('\xA0' ≤ c && c ≠ byteOrderMark && c.toNat ≤ 0xFFFD) ||
    0x10000 ≤ c.toNat

/-- Whether a character of one class comes right before one of another. -/
def adjacent (p q : Char → Bool) : List Char → Bool
  | a :: b :: rest => (p a && q b) || adjacent p q (b :: rest)
  | _ => false

/-- Whether a character is a space. -/
def isSpace (c : Char) : Bool :=
  c == ' '

/-- Whether a character begins something else than a plain scalar. -/
def isIndicator (c : Char) : Bool :=
  "#,[]\x7b\x7d&*!|>'\"%@\x60".toList.contains c

/-- Whether a text has a mark at its beginning that has a meaning in a block. -/
def startsWithMark : List Char → Bool
  | '-' :: '-' :: '-' :: _ => true
  | '.' :: '.' :: '.' :: _ => true
  | c :: rest => isIndicator c || ((c == '?' || c == ':' || c == '-') && endsBefore rest)
  | [] => false

/-- Whether a text has a mark further on that has a meaning in a block: a colon that
ends a word, or a hash sign that begins one.  `spaced` tells whether a space or a
break came before. -/
def holdsMark : (spaced : Bool) → List Char → Bool
  | _, [] => false
  | spaced, c :: rest =>
    (c == ':' && endsBefore rest) || (c == '#' && spaced) ||
      holdsMark (isBlank c || breaksLine c) rest

/-- Whether any character of a text cannot stand as it is. -/
def hasSpecial (text : List Char) : Bool :=
  text.any fun c => !isPrintable c

/-- Whether a text begins or ends with a space or a break. -/
def hasLooseEnd (text : List Char) : Bool :=
  text.head?.any (fun c => isSpace c || breaksLine c) ||
    text.getLast?.any fun c => isSpace c || breaksLine c

/-- Whether a space comes before a break. -/
def hasSpaceBreak (text : List Char) : Bool :=
  adjacent isSpace breaksLine text

/-- Whether a space comes after a break. -/
def hasBreakSpace (text : List Char) : Bool :=
  adjacent breaksLine isSpace text

/-- Whether a text can be written without quotes. -/
def allowsPlain (text : List Char) : Bool :=
  !hasSpecial text && !hasLooseEnd text && !text.any breaksLine && !startsWithMark text &&
    !holdsMark false (text.drop 1)

/-- Whether a text can be written between single quotes. -/
def allowsSingle (text : List Char) : Bool :=
  !hasSpecial text && !hasSpaceBreak text && !hasBreakSpace text

/-- Whether a text can be written as a literal block. -/
def allowsLiteral (text : List Char) : Bool :=
  !hasSpecial text && !hasSpaceBreak text && !text.getLast?.any isSpace

/-- Whether a text would read as something else, or as padded digits, without
quotes. -/
def misleads (text : List Char) : Bool :=
  Core.ofText (String.ofList text) ≠ .text || Core.isPadded text

/-- The way in which a text is written. -/
def style (text : List Char) : Style :=
  if text.contains '\n' then
    if allowsLiteral text then .literal else .double
  else if !misleads text ∧ allowsPlain text then .plain
  else if allowsSingle text then .single
  else .double

/-! ## Scalars -/

/-- Spaces. -/
def spaces (count : Nat) : List Char :=
  List.replicate count ' '

/-- The lines of a text, indented.  `fresh` tells whether a line begins here.  Lines
without a character are not indented. -/
def indented (indent : Nat) : (fresh : Bool) → List Char → List Char
  | _, [] => []
  | fresh, c :: rest =>
    if isBreak c then c :: indented indent true rest
    else if fresh then spaces indent ++ c :: indented indent false rest
    else c :: indented indent false rest

/-- A text between single quotes.  Where a line broke, `fresh`, the next one is
indented. -/
def singleQuoted (indent : Nat) : (fresh : Bool) → List Char → List Char
  | fresh, [] => if fresh then spaces indent ++ ['\''] else ['\'']
  | fresh, c :: rest =>
    if isBreak c then c :: singleQuoted indent true rest
    else
      (if fresh then spaces indent else []) ++
        ((if c = '\'' then ['\'', '\''] else [c]) ++ singleQuoted indent false rest)

/-- A digit of a code point, in upper case. -/
def hexDigit (value : Nat) : Char :=
  if value < 10 then Char.ofNat ('0'.toNat + value) else Char.ofNat ('A'.toNat + (value - 10))

/-- So many hexadecimal digits of a number. -/
def hexDigits : (count : Nat) → Nat → List Char
  | 0, _ => []
  | count + 1, value => hexDigits count (value / 16) ++ [hexDigit (value % 16)]

/-- The code point of a character, with as many digits as it needs. -/
def codePoint (c : Char) : List Char :=
  if c.toNat ≤ 0xFF then 'x' :: hexDigits 2 c.toNat
  else if c.toNat ≤ 0xFFFF then 'u' :: hexDigits 4 c.toNat
  else 'U' :: hexDigits 8 c.toNat

/-- The letter that stands for a character after a backslash, if there is one. -/
def escapeLetter? (c : Char) : Option Char :=
  match c.toNat with
  | 0x00 => some '0'
  | 0x07 => some 'a'
  | 0x08 => some 'b'
  | 0x09 => some 't'
  | 0x0A => some 'n'
  | 0x0B => some 'v'
  | 0x0C => some 'f'
  | 0x0D => some 'r'
  | 0x1B => some 'e'
  | 0x22 => some '"'
  | 0x5C => some '\\'
  | 0x85 => some 'N'
  | 0x2028 => some 'L'
  | 0x2029 => some 'P'
  | _ => none

/-- A character between double quotes. -/
def doubleQuotedChar (c : Char) : List Char :=
  if isPrintable c ∧ !breaksLine c ∧ c ≠ '"' ∧ c ≠ '\\' then [c]
  else
    match escapeLetter? c with
    | some letter => ['\\', letter]
    | none => '\\' :: codePoint c

/-- A text between double quotes. -/
def doubleQuoted (text : List Char) : List Char :=
  '"' :: (text.flatMap doubleQuotedChar ++ ['"'])

/-- The sign in the header of a literal block that tells what becomes of the breaks at
its end. -/
def chompingSign (text : List Char) : List Char :=
  match text.reverse with
  | [] => ['-']
  | [c] => if isBreak c then ['+'] else ['-']
  | c :: d :: _ => if !isBreak c then ['-'] else if isBreak d then ['+'] else []

/-- A literal block.  Its header tells the indentation where the text begins with a
space or a break. -/
def literal (indent : Nat) (text : List Char) : List Char :=
  let depth := if text.head?.any fun c => isSpace c || isBreak c then ['2'] else []
  '|' :: (depth ++ (chompingSign text ++ ('\n' :: indented indent true text)))

/-- A text as a scalar, with an indentation for the lines after the first. -/
def scalar (indent : Nat) (text : List Char) : List Char :=
  match style text with
  | .plain => text
  | .single => '\'' :: singleQuoted indent false text
  | .double => doubleQuoted text
  | _ => literal indent text

/-- A text as a scalar, up to the end of the line. -/
def scalarLine (indent : Nat) (text : List Char) : List Char :=
  if style text = .literal ∧ text.getLast?.any isBreak then scalar indent text
  else scalar indent text ++ ['\n']

/-! ## Mappings -/

/-- The longest key, in bytes, that is written on one line with its value. -/
def keyLimit : Nat := 128

/-- Whether a key is written on one line with its value. -/
def isSimpleKey (key : String) : Bool :=
  !key.toList.any breaksLine && key.utf8ByteSize ≤ keyLimit

/-- A key and the colon after it. -/
def keyLine (indent : Nat) (key : String) : List Char :=
  if isSimpleKey key then spaces indent ++ (scalar (indent + 2) key.toList ++ [':'])
  else
    spaces indent ++
      ('?' :: ' ' :: (scalarLine (indent + 2) key.toList ++ (spaces indent ++ [':'])))

mutual

/-- What comes after the colon of an entry at an indentation, with the line break at
its end. -/
def afterColon (indent : Nat) : Outline → List Char
  | .int value => ' ' :: (Text.Decimal.write value ++ ['\n'])
  | .text s => ' ' :: scalarLine (indent + 2) s.toList
  | .mapping [] => " \x7b\x7d\n".toList
  | .mapping (entry :: entries) => '\n' :: entriesAt (indent + 2) (entry :: entries)

/-- Entries at an indentation. -/
def entriesAt (indent : Nat) : List (String × Outline) → List Char
  | [] => []
  | (key, value) :: rest =>
    keyLine indent key ++ (afterColon indent value ++ entriesAt indent rest)

end

/-- The text of a document that is a mapping with these entries. -/
def render (entries : List (String × Outline)) : String :=
  String.ofList (entriesAt 0 entries)

end Outline

end Placement.Yaml
