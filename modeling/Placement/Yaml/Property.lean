import Placement.Yaml.Scalar.Block
import Placement.Yaml.Scalar.Quoted
import Placement.Yaml.Token

/-!
# Names, tags and directives

The tokens that say something about a node or a document: the names of anchors, the
tags of nodes, and the directives before a document.

## Main definitions

* `Property.name` — reads the name of an anchor.
* `Property.tag` — reads a tag after its exclamation mark.
* `Property.directive` — reads a directive after its percent sign.
-/

namespace Placement.Yaml.Property

/-- Something that was read on one line, with what follows it. -/
structure Read (α : Type) where
  value : α
  rest : List Char

/-- Splits a text before the first character outside a class. -/
def span (p : Char → Bool) (text : List Char) : Read (List Char) :=
  ⟨text.takeWhile p, text.dropWhile p⟩

/-! ## Anchors -/

/-- Whether the name of an anchor may end before this text. -/
def endsName : List Char → Bool
  | [] => true
  | c :: _ =>
    isSpacing c || c == '?' || c == ':' || c == ',' || c == ']' || c == '\x7d' || c == '%' ||
      c == '@' || c == '\x60'

/-- Reads the name of an anchor, which is not empty. -/
def name (text : List Char) : Option (Read String) :=
  let read := span isWord text
  if read.value ≠ [] ∧ endsName read.rest then some ⟨String.ofList read.value, read.rest⟩ else none

/-! ## Tags -/

/-- Whether a tag may hold the character.  Commas and brackets only stand in a tag
that is written out or in a directive. -/
def isTagChar (whole : Bool) (c : Char) : Bool :=
  isWord c || ";/?:@&=+$.%!~*'()".toList.contains c || (whole && ",[]".toList.contains c)

/-- How many bytes a character has that begins with this byte. -/
def byteCount? (byte : Nat) : Option Nat :=
  if byte < 0x80 then some 1
  else if 0xC0 ≤ byte ∧ byte < 0xE0 then some 2
  else if 0xE0 ≤ byte ∧ byte < 0xF0 then some 3
  else if 0xF0 ≤ byte ∧ byte < 0xF8 then some 4
  else none

/-- The bytes of a text in which some are written in hexadecimal after percent signs.
Those must come in groups, each of as many as the first of them tells; `missing` are
left of the present one. -/
def unescape : List Char → (missing : Nat) → Option (List UInt8)
  | [], 0 => some []
  | [], _ + 1 => none
  | '%' :: a :: b :: rest, missing =>
    match Scalar.hexDigit? a, Scalar.hexDigit? b with
    | some high, some low =>
      let byte := high * 16 + low
      let left :=
        match missing with
        | 0 => (byteCount? byte).map (· - 1)
        | left + 1 => if 0x80 ≤ byte ∧ byte < 0xC0 then some left else none
      match left with
      | none => none
      | some left => (unescape rest left).map (UInt8.ofNat byte :: ·)
    | _, _ => none
  | c :: rest, 0 => if c = '%' then none else (unescape rest 0).map (c.toUInt8 :: ·)
  | _ :: _, _ + 1 => none

/-- Reads the characters of a tag, after `given` ones that belong to it already.
Together there must be some. -/
def tagText (whole : Bool) (given : Nat) (text : List Char) : Option (Read Tag) :=
  let read := span (isTagChar whole) text
  if given = 0 ∧ read.value = [] then none
  else (unescape read.value 0).map fun bytes => ⟨.ofBytes bytes, read.rest⟩

/-- Whether a tag may end before this text. -/
def endsTag (flow : Bool) : List Char → Bool
  | [] => true
  | c :: _ => isSpacing c || (flow && c == ',')

/-- Reads a tag after its exclamation mark.  It is written out between angle
brackets, or it is a handle and a suffix.  Where no second exclamation mark closes
the handle the handle is the first one alone; a tag that is nothing but an
exclamation mark has no handle. -/
def tag (flow : Bool) (text : List Char) : Option (Read Token) :=
  let read : Option (Read Token) :=
    match text with
    | '<' :: rest =>
      match tagText true 0 rest with
      | some ⟨uri, '>' :: rest⟩ => some ⟨.tag "" uri, rest⟩
      | _ => none
    | _ =>
      let word := span isWord text
      match word.rest with
      | '!' :: rest =>
        (tagText false 0 rest).map fun suffix =>
          ⟨.tag (String.ofList ('!' :: (word.value ++ ['!']))) suffix.value, suffix.rest⟩
      | rest =>
        (tagText false (word.value.length + 1) rest).map fun more =>
          let suffix := Tag.ofChars word.value ++ more.value
          ⟨if suffix.bytes = [] then .tag "" .mark else .tag "!" suffix, more.rest⟩
  read.filter fun read => endsTag flow read.rest

/-! ## Directives -/

/-- Reads a number of at most nine digits. -/
def number (text : List Char) : Option (Read Nat) :=
  let read := span Char.isDigit text
  if read.value = [] ∨ 9 < read.value.length then none
  else some ⟨Nat.ofDigitChars 10 read.value 0, read.rest⟩

/-- Reads a version: two numbers with a point between. -/
def version (text : List Char) : Option (Read Token) :=
  match number text with
  | some ⟨major, '.' :: rest⟩ =>
    (number rest).map fun minor => ⟨.version major minor.value, minor.rest⟩
  | _ => none

/-- Reads a tag handle: an exclamation mark alone, or two around a word. -/
def handle (text : List Char) : Option (Read (List Char)) :=
  match text with
  | '!' :: rest =>
    let word := span isWord rest
    match word.rest with
    | '!' :: rest => some ⟨'!' :: (word.value ++ ['!']), rest⟩
    | rest => if word.value = [] then some ⟨['!'], rest⟩ else none
  | _ => none

/-- Reads a tag handle and the tag text that it stands for. -/
def tagHandle (text : List Char) : Option (Read Token) :=
  match handle text with
  | some ⟨name, c :: rest⟩ =>
    if isBlank c then
      match tagText true 0 (rest.dropWhile isBlank) with
      | some uri =>
        if endsWord uri.rest then
          some ⟨.tagHandle (String.ofList name) uri.value, uri.rest⟩
        else none
      | none => none
    else none
  | _ => none

/-- Reads a directive after its percent sign, up to the end of its line. -/
def directive (text : List Char) : Option (Read Token) :=
  let name := span isWord text
  if !endsWord name.rest then none
  else
    let rest := name.rest.dropWhile isBlank
    if name.value = "YAML".toList then version rest
    else if name.value = "TAG".toList then tagHandle rest
    else none

end Placement.Yaml.Property
