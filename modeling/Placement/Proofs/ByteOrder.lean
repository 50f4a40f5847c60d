import Mathlib.Data.String.Basic
import Placement.Text.Utf8

/-!
# The order of texts is the order of their bytes

Names are compared by the bytes that encode them, from the first one on.  This is the order of
texts by their characters: a greater character has greater bytes, and no character's bytes begin
those of another one.

The main statement is `lt_iff_bytes_lt`.
-/

namespace Placement.Text.Utf8

/-- Texts of bytes are compared by the first byte, and if it is the same by the rest. -/
theorem ofNat_cons_lt {a b : Nat} {rest rest' : List UInt8} (ha : a < 256) (hb : b < 256) :
    UInt8.ofNat a :: rest < UInt8.ofNat b :: rest' ↔ a < b ∨ a = b ∧ rest < rest' := by
  rw [List.cons_lt_cons_iff, UInt8.lt_iff_toNat_lt, ← UInt8.toNat_inj, toNat_ofNat_of_lt ha,
    toNat_ofNat_of_lt hb]

/-- The bytes of a character, by how many there are. -/
inductive Encoded (n : Nat) : List UInt8 → Prop
  | one : n ≤ 0x7F → Encoded n [UInt8.ofNat n]
  | two : 0x7F < n → n ≤ 0x7FF →
      Encoded n [UInt8.ofNat (n / 64 % 32 + 192), UInt8.ofNat (n % 64 + 128)]
  | three : 0x7FF < n → n ≤ 0xFFFF →
      Encoded n [UInt8.ofNat (n / 4096 % 16 + 224), UInt8.ofNat (n / 64 % 64 + 128),
        UInt8.ofNat (n % 64 + 128)]
  | four : 0xFFFF < n → n < 0x110000 →
      Encoded n [UInt8.ofNat (n / 262144 % 8 + 240), UInt8.ofNat (n / 4096 % 64 + 128),
        UInt8.ofNat (n / 64 % 64 + 128), UInt8.ofNat (n % 64 + 128)]

theorem encoded_encodeChar (c : Char) : Encoded c.val.toNat (String.utf8EncodeChar c) := by
  have valid : c.val.toNat < 0x110000 := by
    rcases c.valid with low | ⟨_, high⟩ <;> omega
  rw [String.utf8EncodeChar]
  split
  next small => exact .one small
  split
  next above small => exact .two (Nat.lt_of_not_le above) small
  split
  next above small => exact .three (Nat.lt_of_not_le above) small
  next above => exact .four (Nat.lt_of_not_le above) valid

/-- The higher digits of a number are digits of what is left when the lowest one is taken off. -/
theorem digits_eq (n : Nat) : n / 4096 = n / 64 / 64 ∧ n / 262144 = n / 64 / 64 / 64 := by
  omega

/-- Greater numbers have greater bytes, whatever follows: the first byte tells how many there are,
and the bytes of as many are compared digit by digit. -/
theorem Encoded.append_lt {m n : Nat} {bytes bytes' : List UInt8} (h : Encoded m bytes)
    (h' : Encoded n bytes') (lt : m < n) (rest rest' : List UInt8) :
    bytes ++ rest < bytes' ++ rest' := by
  cases h <;> cases h' <;>
    simp (disch := omega) only [List.cons_append, List.nil_append, ofNat_cons_lt, digits_eq] <;>
    omega

/-- A text before another one has bytes before those of the other one. -/
theorem flatMap_encodeChar_lt {text text' : List Char} (h : text < text') :
    text.flatMap String.utf8EncodeChar < text'.flatMap String.utf8EncodeChar := by
  induction text generalizing text' with
  | nil =>
    cases text' with
    | nil => exact absurd h (lt_irrefl _)
    | cons d text' =>
      rw [List.flatMap_nil, List.flatMap_cons]
      have encoded := encoded_encodeChar d
      generalize String.utf8EncodeChar d = bytes at encoded
      cases encoded <;> exact List.nil_lt_cons ..
  | cons c text ih =>
    cases text' with
    | nil => simp at h
    | cons d text' =>
      rw [List.flatMap_cons, List.flatMap_cons]
      rcases List.cons_lt_cons_iff.mp h with lt | ⟨rfl, lt⟩
      · exact (encoded_encodeChar c).append_lt (encoded_encodeChar d) lt _ _
      · exact List.append_left_lt (ih lt)

/-- **Texts are in the order of their bytes.** -/
theorem lt_iff_bytes_lt {text text' : String} :
    text < text' ↔ text.toUTF8.toList < text'.toUTF8.toList := by
  rw [toList_toUTF8, toList_toUTF8, String.lt_iff_toList_lt]
  refine ⟨flatMap_encodeChar_lt, fun bytes => ?_⟩
  rcases lt_trichotomy text.toList text'.toList with lt | same | gt
  · exact lt
  · rw [same] at bytes
    exact absurd bytes (List.lt_irrefl _)
  · exact absurd bytes (List.lt_asymm (flatMap_encodeChar_lt gt))

end Placement.Text.Utf8
