/-!
# Tags

A tag tells of which type a node is.  Its characters may be written byte by byte, and
then they need not make up a text, so that a tag is kept as its bytes.  A zero byte
ends a tag, whatever is written after it.

## Main definitions

* `Tag` — a tag, or a part of one.
* `Tag.core` — the tags of the types that every document knows.
* `Tag.word?` — what a tag says that only its document knows.
-/

namespace Placement.Yaml

/-- The bytes of a tag, or of a part of one. -/
structure Tag where
  bytes : List UInt8
  deriving DecidableEq

namespace Tag

instance : Append Tag := ⟨fun a b => ⟨a.bytes ++ b.bytes⟩⟩

/-- The tag that characters of ASCII spell. -/
def ofChars (chars : List Char) : Tag :=
  ⟨chars.map Char.toUInt8⟩

/-- The tag of bytes that were written, up to the first zero. -/
def ofBytes (written : List UInt8) : Tag :=
  ⟨written.takeWhile (· ≠ 0)⟩

/-- The exclamation mark, with which the tags begin that only one document knows. -/
def mark : Tag :=
  ofChars ['!']

/-- The tag of a type that every document knows. -/
def core (type : String) : Tag :=
  ofChars ("tag:yaml.org,2002:" ++ type).toList

/-- Whether a tag begins with an exclamation mark. -/
def isLocal (tag : Tag) : Bool :=
  mark.bytes.isPrefixOf tag.bytes

/-- What a tag says that only its document knows: the text after its exclamation mark,
or the mark itself if nothing follows.  Bytes that are no text say nothing. -/
def word? (tag : Tag) : Option String :=
  match mark.bytes.isPrefixOf? tag.bytes with
  | none => none
  | some [] => some "!"
  | some rest => String.fromUTF8? rest.toByteArray

end Tag

end Placement.Yaml
