import Placement.Yaml.Scalar.Plain

/-!
# Quoted scalars

Between single quotes only the quote itself is written in a special way, twice.
Between double quotes a backslash introduces a character that could not stand there
otherwise, or takes a line break away.

## Main definitions

* `Scalar.single`, `Scalar.double` — read what follows the opening quote.
-/

namespace Placement.Yaml.Scalar

/-- Whether a quoted scalar is cut off by a mark that separates documents. -/
def cutOff (p : Place) (text : List Char) : Bool :=
  p.column = 0 ∧ atDocumentMark text

/-- Reads a scalar up to its closing single quote; what was read of it already is in
reverse. -/
def single : List Char → Place → Gap → List Char → Option Read
  | [], _, _, _ => none
  | c :: rest, p, gap, read =>
    if isBlank c then single rest (p.past c) (gap.blank c) read
    else if isBreak c then single rest p.newline (gap.lineBreak c) read
    else if cutOff p (c :: rest) then none
    else if c = '\'' then
      match rest with
      | '\'' :: more => single more ((p.past c).past c) .none ('\'' :: gap.joined read)
      | _ => some ⟨(gap.joined read).reverse, false, p.past c, rest⟩
    else single rest (p.past c) .none (c :: gap.joined read)

/-- The character that a letter after a backslash stands for. -/
def escaped? : Char → Option Char
  | '0' => some '\x00'
  | 'a' => some '\x07'
  | 'b' => some '\x08'
  | 't' => some '\t'
  | '\t' => some '\t'
  | 'n' => some '\n'
  | 'v' => some '\x0b'
  | 'f' => some '\x0c'
  | 'r' => some '\r'
  | 'e' => some '\x1b'
  | ' ' => some ' '
  | '"' => some '"'
  | '/' => some '/'
  | '\\' => some '\\'
  | 'N' => some nextLine
  | '_' => some '\xA0'
  | 'L' => some lineSeparator
  | 'P' => some paragraphSeparator
  | _ => none

/-- How many hexadecimal digits follow a letter that introduces a code point. -/
def codeDigits? : Char → Option Nat
  | 'x' => some 2
  | 'u' => some 4
  | 'U' => some 8
  | _ => none

/-- The value of a hexadecimal digit. -/
def hexDigit? (c : Char) : Option Nat :=
  if '0' ≤ c ∧ c ≤ '9' then some (c.toNat - '0'.toNat)
  else if 'a' ≤ c ∧ c ≤ 'f' then some (c.toNat - 'a'.toNat + 10)
  else if 'A' ≤ c ∧ c ≤ 'F' then some (c.toNat - 'A'.toNat + 10)
  else none

/-- The character with a code point, if there is one. -/
def charOf? (code : Nat) : Option Char :=
  if code.isValidChar then some (Char.ofNat code) else none

/-- Reads a scalar up to its closing double quote; what was read of it already is in
reverse.  While the digits of a code point are being read, `code` says how many are
left and what they come to so far. -/
def double : List Char → Place → (code : Option (Nat × Nat)) → Gap → List Char → Option Read
  | [], _, _, _, _ => none
  | c :: rest, p, some (left, code), gap, read =>
    match hexDigit? c with
    | none => none
    | some digit =>
      let code := code * 16 + digit
      if left ≤ 1 then
        match charOf? code with
        | none => none
        | some char => double rest (p.past c) none .none (char :: read)
      else double rest (p.past c) (some (left - 1, code)) gap read
  | c :: rest, p, none, gap, read =>
    if isBlank c then double rest (p.past c) none (gap.blank c) read
    else if isBreak c then double rest p.newline none (gap.lineBreak c) read
    else if cutOff p (c :: rest) then none
    else if c = '"' then some ⟨(gap.joined read).reverse, false, p.past c, rest⟩
    else if c = '\\' then
      match rest with
      | [] => none
      | d :: more =>
        if isBreak d then double more (p.past c).newline none (.broken none []) (gap.joined read)
        else match escaped? d, codeDigits? d with
          | some char, _ => double more ((p.past c).past d) none .none (char :: gap.joined read)
          | none, some digits => double more ((p.past c).past d) (some (digits, 0)) .none (gap.joined read)
          | none, none => none
    else double rest (p.past c) none .none (c :: gap.joined read)

end Placement.Yaml.Scalar
