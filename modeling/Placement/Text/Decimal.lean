/-!
# Decimal integers

An integer is written as its decimal digits, after a minus sign when it is
negative.  Reading also takes a plus sign and leading zeros.

## Main definitions

* `Decimal.write` — the digits of an integer.
* `Decimal.natural?`, `Decimal.read?` — reading without and with a sign.

What is written reads back as the integer it was, by `read?_write`.
-/

namespace Placement.Text.Decimal

/-- The decimal digits of an integer, after its minus sign if it has one. -/
def write : Int → List Char
  | .ofNat n => Nat.toDigits 10 n
  | .negSucc n => '-' :: Nat.toDigits 10 (n + 1)

/-- The number that one or more digits stand for; nothing else is read. -/
def natural? (digits : List Char) : Option Nat :=
  if digits ≠ [] ∧ digits.all Char.isDigit then some (Nat.ofDigitChars 10 digits 0) else none

/-- The integer that digits after at most one sign stand for. -/
def read? : List Char → Option Int
  | '-' :: digits => (natural? digits).map fun n => -(n : Int)
  | '+' :: digits => (natural? digits).map fun n => (n : Int)
  | digits => (natural? digits).map fun n => (n : Int)

/-- Whether an integer is one of 32 bits. -/
def fitsInt32 (n : Int) : Bool :=
  Int32.minValue.toInt ≤ n && n ≤ Int32.maxValue.toInt

/-- The 32-bit integer that digits after at most one sign stand for. -/
def readInt32? (text : List Char) : Option Int32 :=
  (read? text).bind fun n => if fitsInt32 n then some (Int32.ofInt n) else none

/-! ## Reading back what is written -/

@[simp] theorem natural?_toDigits (n : Nat) : natural? (Nat.toDigits 10 n) = some n := by
  have digits : (Nat.toDigits 10 n).all Char.isDigit = true :=
    List.all_eq_true.2 fun _ h => Nat.isDigit_of_mem_toDigits (by decide) (by decide) h
  rw [natural?, if_pos ⟨Nat.toDigits_ne_nil, digits⟩,
    Nat.ofDigitChars_toDigits (by decide) (by decide)]

/-- A number that begins with a digit is read without a sign. -/
theorem read?_of_head_isDigit {c : Char} {rest : List Char} (digit : c.isDigit = true) :
    read? (c :: rest) = (natural? (c :: rest)).map fun n => (n : Int) := by
  unfold read?
  split
  · simp_all
  · simp_all
  · rfl

/-- An integer is read back from its digits. -/
@[simp] theorem read?_write (n : Int) : read? (write n) = some n := by
  cases n with
  | negSucc n =>
    simp only [write, read?, natural?_toDigits]
    rfl
  | ofNat n =>
    rw [write]
    cases digits : Nat.toDigits 10 n with
    | nil => exact absurd digits Nat.toDigits_ne_nil
    | cons c rest =>
      have digit : c.isDigit = true :=
        Nat.isDigit_of_mem_toDigits (b := 10) (n := n) (by decide) (by decide) (by simp [digits])
      rw [read?_of_head_isDigit digit, ← digits, natural?_toDigits]
      rfl

/-- A 32-bit integer is read back from its digits. -/
@[simp] theorem readInt32?_write (n : Int32) : readInt32? (write n.toInt) = some n := by
  have fits : fitsInt32 n.toInt = true := by
    simp only [fitsInt32, Bool.and_eq_true, decide_eq_true_eq]
    exact ⟨n.minValue_le_toInt, n.toInt_le⟩
  simp [readInt32?, fits]

end Placement.Text.Decimal
