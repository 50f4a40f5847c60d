/-!
# Reading UTF-8 that may be broken

Bytes from a store need not be text.  Where a text is wanted all the same, each
longest run of bytes that begins a character but does not complete it counts as
one replacement character, and so does each byte that begins none.

## Main definitions

* `Utf8.lead?` — what the first byte of a longer character promises.
* `Utf8.repair` — the characters of a byte string, the broken parts replaced.

The main statement is `toText_toUTF8`: bytes that are not broken are read as what they are.
-/

namespace Placement.Text.Utf8

/-- What a leading byte promises: how many bytes follow, the bounds of the first
of them, and the bits of the code point that the leading byte holds. -/
structure Lead where
  /-- The number of bytes that follow. -/
  following : Nat
  /-- The least byte that may follow first. -/
  least : Nat
  /-- The greatest byte that may follow first. -/
  greatest : Nat
  /-- The high bits of the code point. -/
  bits : Nat

/-- The promise of a byte that begins a character of several bytes.  The bounds
on the second byte keep out overlong forms, surrogates and code points that are
too large. -/
def lead? (byte : Nat) : Option Lead :=
  if 0xC2 ≤ byte ∧ byte ≤ 0xDF then some ⟨1, 0x80, 0xBF, byte - 0xC0⟩
  else if byte = 0xE0 then some ⟨2, 0xA0, 0xBF, 0⟩
  else if byte = 0xED then some ⟨2, 0x80, 0x9F, 0xD⟩
  else if 0xE1 ≤ byte ∧ byte ≤ 0xEF then some ⟨2, 0x80, 0xBF, byte - 0xE0⟩
  else if byte = 0xF0 then some ⟨3, 0x90, 0xBF, 0⟩
  else if 0xF1 ≤ byte ∧ byte ≤ 0xF3 then some ⟨3, 0x80, 0xBF, byte - 0xF0⟩
  else if byte = 0xF4 then some ⟨3, 0x80, 0x8F, 4⟩
  else none

/-- The character that stands in for a broken part. -/
def replacement : Char := '\uFFFD'

/-- Whether a byte lies within two bounds. -/
def within (byte : UInt8) (least greatest : Nat) : Bool :=
  least ≤ byte.toNat && byte.toNat ≤ greatest

/-- Six more bits of a code point, from a byte that continues a character. -/
def extend (bits : Nat) (byte : UInt8) : Nat :=
  bits * 64 + (byte.toNat - 0x80)

/-- The characters of a byte string, each broken part replaced. -/
def repair : List UInt8 → List Char
  | [] => []
  | a :: rest =>
    if a.toNat < 0x80 then Char.ofNat a.toNat :: repair rest
    else match lead? a.toNat with
      | none => replacement :: repair rest
      | some lead =>
        match rest with
        | [] => [replacement]
        | b :: rest₁ =>
          if !within b lead.least lead.greatest then replacement :: repair (b :: rest₁)
          else if lead.following = 1 then Char.ofNat (extend lead.bits b) :: repair rest₁
          else match rest₁ with
            | [] => [replacement]
            | c :: rest₂ =>
              if !within c 0x80 0xBF then replacement :: repair (c :: rest₂)
              else if lead.following = 2 then
                Char.ofNat (extend (extend lead.bits b) c) :: repair rest₂
              else match rest₂ with
                | [] => [replacement]
                | d :: rest₃ =>
                  if !within d 0x80 0xBF then replacement :: repair (d :: rest₃)
                  else Char.ofNat (extend (extend (extend lead.bits b) c) d) :: repair rest₃

/-- The text of a byte string, each broken part replaced. -/
def toText (bytes : ByteArray) : String :=
  String.ofList (repair bytes.toList)

/-! ## Text that is not broken -/

theorem toNat_ofNat_of_lt {n : Nat} (h : n < 256) : (UInt8.ofNat n).toNat = n := by
  rw [UInt8.toNat_ofNat', Nat.mod_eq_of_lt h]

theorem within_ofNat {n least greatest : Nat} (hn : n < 256) (low : least ≤ n)
    (high : n ≤ greatest) : within (UInt8.ofNat n) least greatest = true := by
  rw [within, toNat_ofNat_of_lt hn, decide_eq_true low, decide_eq_true high, Bool.and_self]

/-- A byte that continues a character lies within the bounds for such bytes. -/
theorem within_continuation (n : Nat) :
    within (UInt8.ofNat (n % 64 + 128)) 0x80 0xBF = true :=
  within_ofNat (by omega) (by omega) (by omega)

/-- A byte that continues a character adds the six bits that it was made from. -/
theorem extend_continuation (bits n : Nat) :
    extend bits (UInt8.ofNat (n % 64 + 128)) = bits * 64 + n % 64 := by
  have byte : (UInt8.ofNat (n % 64 + 128)).toNat = n % 64 + 128 := toNat_ofNat_of_lt (by omega)
  unfold extend
  rw [byte, Nat.add_sub_cancel]

/-- The promise of the first of two bytes. -/
theorem lead?_two {n : Nat} (low : 0x7F < n) (high : n ≤ 0x7FF) :
    lead? (n / 64 % 32 + 192) = some ⟨1, 0x80, 0xBF, n / 64⟩ := by
  rw [lead?, if_pos (by omega), show n / 64 % 32 + 192 - 0xC0 = n / 64 by omega]

/-- The promise of the first of three bytes, within which the second lies. -/
theorem lead?_three {n : Nat} (low : 0x7FF < n) (high : n ≤ 0xFFFF)
    (valid : n < 0xD800 ∨ 0xDFFF < n) :
    ∃ least greatest, lead? (n / 4096 % 16 + 224) = some ⟨2, least, greatest, n / 4096⟩ ∧
      within (UInt8.ofNat (n / 64 % 64 + 128)) least greatest = true := by
  rw [lead?, if_neg (by omega)]
  split
  next =>
    rw [show n / 4096 = 0 by omega]
    exact ⟨_, _, rfl, within_ofNat (by omega) (by omega) (by omega)⟩
  split
  next =>
    rw [show n / 4096 = 0xD by omega]
    exact ⟨_, _, rfl, within_ofNat (by omega) (by omega) (by omega)⟩
  rw [if_pos (by omega), show n / 4096 % 16 + 224 - 0xE0 = n / 4096 by omega]
  exact ⟨_, _, rfl, within_ofNat (by omega) (by omega) (by omega)⟩

/-- The promise of the first of four bytes, within which the second lies. -/
theorem lead?_four {n : Nat} (low : 0xFFFF < n) (high : n < 0x110000) :
    ∃ least greatest, lead? (n / 262144 % 8 + 240) = some ⟨3, least, greatest, n / 262144⟩ ∧
      within (UInt8.ofNat (n / 4096 % 64 + 128)) least greatest = true := by
  rw [lead?, if_neg (by omega), if_neg (by omega), if_neg (by omega), if_neg (by omega)]
  split
  next =>
    rw [show n / 262144 = 0 by omega]
    exact ⟨_, _, rfl, within_ofNat (by omega) (by omega) (by omega)⟩
  split
  next =>
    rw [show n / 262144 % 8 + 240 - 0xF0 = n / 262144 by omega]
    exact ⟨_, _, rfl, within_ofNat (by omega) (by omega) (by omega)⟩
  rw [if_pos (by omega), show n / 262144 = 4 by omega]
  exact ⟨_, _, rfl, within_ofNat (by omega) (by omega) (by omega)⟩

/-- The bytes of a character are read as that character, whatever follows. -/
theorem repair_encodeChar (c : Char) (rest : List UInt8) :
    repair (String.utf8EncodeChar c ++ rest) = c :: repair rest := by
  have valid : c.toNat < 0xD800 ∨ 0xDFFF < c.toNat ∧ c.toNat < 0x110000 := c.valid
  have back : Char.ofNat c.toNat = c := Char.ofNat_toNat c
  rw [String.utf8EncodeChar, show c.val.toNat = c.toNat from rfl]
  generalize c.toNat = n at valid back
  subst back
  split
  next one =>
    rw [List.singleton_append, repair, toNat_ofNat_of_lt (by omega), if_pos (by omega)]
  split
  next two =>
    have whole : n / 64 * 64 + n % 64 = n := by omega
    rw [List.cons_append, List.singleton_append, repair, toNat_ofNat_of_lt (by omega),
      if_neg (by omega), lead?_two (by omega) two]
    simp only [within_continuation, extend_continuation, whole]
    rfl
  split
  next three =>
    obtain ⟨least, greatest, first, second⟩ := lead?_three (by omega) three (by omega)
    have whole : (n / 4096 * 64 + n / 64 % 64) * 64 + n % 64 = n := by omega
    simp only [List.cons_append, List.nil_append]
    rw [repair, toNat_ofNat_of_lt (by omega), if_neg (by omega), first]
    simp only [second, within_continuation, extend_continuation, whole]
    rfl
  next =>
    obtain ⟨least, greatest, first, second⟩ := lead?_four (n := n) (by omega) (by omega)
    have whole : ((n / 262144 * 64 + n / 4096 % 64) * 64 + n / 64 % 64) * 64 + n % 64 = n := by
      omega
    simp only [List.cons_append, List.nil_append]
    rw [repair, toNat_ofNat_of_lt (by omega), if_neg (by omega), first]
    simp only [second, within_continuation, extend_continuation, whole]
    rfl

theorem repair_encode (text : List Char) :
    repair (text.flatMap String.utf8EncodeChar) = text := by
  induction text with
  | nil => rfl
  | cons c text ih => rw [List.flatMap_cons, repair_encodeChar, ih]

theorem toList_loop (bytes : ByteArray) (i : Nat) (before : List UInt8) :
    ByteArray.toList.loop bytes i before = before.reverse ++ bytes.data.toList.drop i := by
  fun_induction ByteArray.toList.loop bytes i before with
  | case1 i before inside ih =>
    have here : i < bytes.data.toList.length := inside
    have byte : bytes.get! i = bytes.data.toList[i] := getElem!_pos bytes.data i inside
    rw [ih, List.reverse_cons, List.append_assoc, List.singleton_append, byte,
      List.drop_eq_getElem_cons here]
  | case2 i before outside =>
    have none_left : bytes.data.toList.drop i = [] := List.drop_eq_nil_of_le (Nat.le_of_not_lt outside)
    rw [none_left, List.append_nil]

/-- The bytes of a text are those of its characters, one after the other. -/
theorem toList_toUTF8 (text : String) :
    text.toUTF8.toList = text.toList.flatMap String.utf8EncodeChar := by
  rw [ByteArray.toList, toList_loop, List.reverse_nil, List.nil_append, List.drop_zero]
  show text.toByteArray.data.toList = _
  rw [← String.ofList_toList (s := text), String.toByteArray_ofList, String.ofList_toList]
  exact List.toList_data_toByteArray

/-- **The bytes of a text are read as that text.** -/
theorem toText_toUTF8 (text : String) : toText text.toUTF8 = text := by
  rw [toText, toList_toUTF8, repair_encode, String.ofList_toList]

end Placement.Text.Utf8
