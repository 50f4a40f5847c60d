import Placement.Text.Unprintable

/-!
# Quoted text

The form in which messages show a text exactly: between double quotes, with the
quote and the backslash escaped, short escapes for the usual controls, and the
code point in place of any other character that would not show.

## Main definitions

* `Text.quoted` — one text between quotes.
* `Text.quotedList` — several of them between brackets.
-/

namespace Placement.Text

/-- The code point of a character, in lower-case hexadecimal between braces. -/
def codePoint (c : Char) : List Char :=
  '\\' :: 'u' :: '\x7b' :: (Nat.toDigits 16 c.toNat ++ ['\x7d'])

/-- One character of a quoted text.  An apostrophe needs no escape here. -/
def quoteChar (c : Char) : List Char :=
  match c with
  | '"' => ['\\', '"']
  | '\\' => ['\\', '\\']
  | '\t' => ['\\', 't']
  | '\r' => ['\\', 'r']
  | '\n' => ['\\', 'n']
  | '\x00' => ['\\', '0']
  | c => if isUnprintable c then codePoint c else [c]

/-- A text between double quotes, with everything that would not show escaped. -/
def quoted (text : String) : String :=
  String.ofList ('"' :: (text.toList.flatMap quoteChar ++ ['"']))

/-- Quoted texts between brackets, separated by commas. -/
def quotedList (texts : List String) : String :=
  "[" ++ ", ".intercalate (texts.map quoted) ++ "]"

end Placement.Text
