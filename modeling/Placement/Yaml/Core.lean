import Placement.Text.Decimal
import Placement.Yaml.Scalar.Quoted

/-!
# What a plain scalar means

A plain scalar may read as null, a truth value, an integer or a floating-point
number.  Everything else is a text; so are digits after a zero that does not belong
there.

## Main definitions

* `Core` — the meanings.
* `Core.integer?`, `Core.isFloat` — the numbers.
* `Core.ofText` — the meaning of a text.
-/

namespace Placement.Yaml

/-- What a plain scalar can mean. -/
inductive Core where
  | null
  | bool (value : Bool)
  | int (value : Int)
  | float
  | text
  deriving DecidableEq

namespace Core

/-- The number that digits of some base stand for, the first digit first. -/
def digitsValue? (base : Nat) : List Char → Nat → Option Nat
  | [], value => some value
  | c :: rest, value =>
    match Scalar.hexDigit? c with
    | some digit => if digit < base then digitsValue? base rest (value * base + digit) else none
    | none => none

/-- The number that one or more digits of some base stand for. -/
def inBase? (base : Nat) (digits : List Char) : Option Nat :=
  if digits = [] then none else digitsValue? base digits 0

/-- The number that a text without a sign stands for, in base ten or in the base that
its first two characters tell. -/
def magnitude? : List Char → Option Nat
  | '0' :: 'x' :: digits => inBase? 16 digits
  | '0' :: 'o' :: digits => inBase? 8 digits
  | '0' :: 'b' :: digits => inBase? 2 digits
  | '0' :: _ :: _ => none
  | digits => Text.Decimal.natural? digits

/-- The integer that a text stands for. -/
def integer? : List Char → Option Int
  | '+' :: rest => (magnitude? rest).map fun n => (n : Int)
  | '-' :: rest => (magnitude? rest).map fun n => -(n : Int)
  | rest => (magnitude? rest).map fun n => (n : Int)

/-- Whether an integer is small enough to be read as one. -/
def isReadable (n : Int) : Bool :=
  -Int.pow 2 127 ≤ n && n < Int.pow 2 128

/-- A text without its sign. -/
def unsigned : List Char → List Char
  | '+' :: rest => rest
  | '-' :: rest => rest
  | chars => chars

/-- Whether a text is digits after a zero that does not belong there. -/
def isPadded (text : List Char) : Bool :=
  match unsigned text with
  | '0' :: digit :: rest => (digit :: rest).all Char.isDigit
  | _ => false

/-! ## Floating-point numbers -/

/-- A decimal number in parts: digits before and after the point, and an exponent. -/
structure Parts where
  whole : List Char
  fraction : List Char
  exponent : Int

/-- The exponent that a text after the digits tells: zero where there is no text. -/
def exponent? : List Char → Option Int
  | [] => some 0
  | c :: rest => if c = 'e' ∨ c = 'E' then Text.Decimal.read? rest else none

/-- The parts of a decimal number without a sign. -/
def parts? (text : List Char) : Option Parts :=
  let whole := text.takeWhile Char.isDigit
  let rest := text.dropWhile Char.isDigit
  let (fraction, rest) :=
    match rest with
    | '.' :: rest => (rest.takeWhile Char.isDigit, rest.dropWhile Char.isDigit)
    | _ => ([], rest)
  if whole ++ fraction = [] then none
  else (exponent? rest).map fun exponent => ⟨whole, fraction, exponent⟩

/-- The least number that is too large for a floating-point number of 64 bits, once
it is rounded. -/
def floatBound : Nat := Nat.pow 2 1024 - Nat.pow 2 970

/-- Whether a decimal number is finite as a floating-point number of 64 bits.  Its
order of magnitude mostly tells, so that no large power is computed. -/
def Parts.isFinite (parts : Parts) : Bool :=
  let digits := (parts.whole ++ parts.fraction).dropWhile (· = '0')
  let exponent := parts.exponent - parts.fraction.length
  let order := digits.length + exponent
  if digits = [] ∨ order ≤ 308 then true
  else if 310 < order then false
  else
    let mantissa := Nat.ofDigitChars 10 digits 0
    mantissa * Nat.pow 10 exponent.toNat < floatBound * Nat.pow 10 (-exponent).toNat

/-- The words for infinity. -/
def infinityWords : List (List Char) :=
  [".inf".toList, ".Inf".toList, ".INF".toList]

/-- The words for what is no number. -/
def nanWords : List (List Char) :=
  [".nan".toList, ".NaN".toList, ".NAN".toList]

/-- Whether a text stands for a floating-point number. -/
def isFloat (text : List Char) : Bool :=
  nanWords.contains text || infinityWords.contains (unsigned text) ||
    match parts? (unsigned text) with
    | some parts => parts.isFinite
    | none => false

/-! ## Meanings -/

/-- The words for nothing. -/
def nullWords : List String :=
  ["", "null", "Null", "NULL", "~"]

/-- The words for truth. -/
def trueWords : List String :=
  ["true", "True", "TRUE"]

/-- The words for falsehood. -/
def falseWords : List String :=
  ["false", "False", "FALSE"]

/-- What a number, or a text that is none, means. -/
def ofNumber (text : List Char) : Core :=
  match (integer? text).filter isReadable with
  | some n => .int n
  | none => if !isPadded text ∧ isFloat text then .float else .text

/-- What a plain scalar with this text means. -/
def ofText (text : String) : Core :=
  if nullWords.contains text then .null
  else if trueWords.contains text then .bool true
  else if falseWords.contains text then .bool false
  else ofNumber text.toList

end Core

end Placement.Yaml
