import Mathlib.Data.List.Induction
import Mathlib.Order.Bounds.Basic
import Mathlib.Order.Monotone.Basic
import Placement.Proofs.Target

/-!
# What a target asks for

Which texts are percentages is told by a grammar: decimal digits after at most one sign and
before one percent sign, for a number of 32 bits.  A target of such a text speaks of the greatest
number of pods that does not exceed that part of them, also where the percentage is below zero.

## Main definitions

* `Text.Decimal.Numeral`, `Text.Decimal.Signed` — digits, and digits after a sign, with what they
  stand for.
* `TargetSize.Percentage` — a text, and the percentage that it stands for.
* `TargetSize.Speaks` — the number of pods that a target itself speaks of.

That reading is exact is said by `natural?_eq_some_iff`, `readInt32?_eq_some_iff` and
`percent?_eq_some_iff`.  The main statement is `required_computed`.
-/

namespace Placement

/-! ## Numbers -/

namespace Text.Decimal

variable {digits text : List Char} {n : Nat} {z : Int}

/-- One or more decimal digits, and the number that they stand for: the last one counts once, and
what stands before it tenfold. -/
inductive Numeral : List Char → Nat → Prop
  | digit {c : Char} : c.isDigit = true → Numeral [c] (c.toNat - '0'.toNat)
  | snoc {digits : List Char} {n : Nat} {c : Char} :
      Numeral digits n → c.isDigit = true → Numeral (digits ++ [c]) (10 * n + (c.toNat - '0'.toNat))

/-- Digits after at most one sign, and the integer that they stand for. -/
inductive Signed : List Char → Int → Prop
  | plain {digits : List Char} {n : Nat} : Numeral digits n → Signed digits n
  | plus {digits : List Char} {n : Nat} : Numeral digits n → Signed ('+' :: digits) n
  | minus {digits : List Char} {n : Nat} : Numeral digits n → Signed ('-' :: digits) (-n)

theorem natural?_snoc {c : Char} (h : natural? digits = some n) (digit : c.isDigit = true) :
    natural? (digits ++ [c]) = some (10 * n + (c.toNat - '0'.toNat)) := by
  simp only [natural?, Option.ite_none_right_eq_some, Option.some.injEq] at h ⊢
  obtain ⟨⟨_, all_digits⟩, rfl⟩ := h
  refine ⟨⟨by simp, ?_⟩, ?_⟩
  · rw [List.all_append, all_digits, Bool.true_and, List.all_cons, digit, List.all_nil,
      Bool.and_true]
  · rw [Nat.ofDigitChars_append, Nat.ofDigitChars_cons, Nat.ofDigitChars_nil]

/-- **Exactly the numerals are read, as what they stand for.** -/
theorem natural?_eq_some_iff : natural? digits = some n ↔ Numeral digits n := by
  constructor
  · intro h
    induction digits using List.reverseRecOn generalizing n with
    | nil => simp [natural?] at h
    | append_singleton before c ih =>
      simp only [natural?, Option.ite_none_right_eq_some, Option.some.injEq] at h
      obtain ⟨⟨_, all_digits⟩, rfl⟩ := h
      rw [List.all_append, Bool.and_eq_true, List.all_cons, List.all_nil, Bool.and_true]
        at all_digits
      by_cases first : before = []
      · subst first
        simpa [Nat.ofDigitChars_cons, Nat.ofDigitChars_nil] using Numeral.digit all_digits.2
      · rw [Nat.ofDigitChars_append, Nat.ofDigitChars_cons, Nat.ofDigitChars_nil]
        exact .snoc (ih (if_pos ⟨first, all_digits.1⟩)) all_digits.2
  · intro h
    induction h with
    | @digit c digit =>
      rw [natural?, if_pos ⟨by simp, by simp [digit]⟩, Nat.ofDigitChars_cons,
        Nat.ofDigitChars_nil, Nat.mul_zero, Nat.zero_add]
    | snoc _ digit ih => exact natural?_snoc ih digit

theorem Numeral.head_isDigit {c : Char} (h : Numeral (c :: digits) n) : c.isDigit = true := by
  have read := natural?_eq_some_iff.mpr h
  simp only [natural?, Option.ite_none_right_eq_some] at read
  exact List.all_eq_true.mp read.1.2 c List.mem_cons_self

/-- A number that is read is given its sign afterwards. -/
theorem map_cast_eq_some_iff {found : Option Nat} {sign : Int → Int} :
    Option.map sign (do let n ← found; pure (n : Int)) = some z ↔
      ∃ n, found = some n ∧ sign n = z := by
  cases found <;> simp

/-- **Exactly the numerals after at most one sign are read as integers.** -/
theorem read?_eq_some_iff : read? text = some z ↔ Signed text z := by
  constructor
  · intro h
    unfold read? at h
    split at h <;> obtain ⟨n, found, rfl⟩ := map_cast_eq_some_iff.mp h
    next => exact .minus (natural?_eq_some_iff.mp found)
    next => exact .plus (natural?_eq_some_iff.mp found)
    next => exact .plain (natural?_eq_some_iff.mp found)
  · rintro (h | h | h)
    next n =>
      have found := natural?_eq_some_iff.mpr h
      cases text with
      | nil => simp [natural?] at found
      | cons c rest =>
        rw [read?_of_head_isDigit h.head_isDigit]
        exact map_cast_eq_some_iff.mpr ⟨n, found, rfl⟩
    next n => exact map_cast_eq_some_iff.mpr ⟨n, natural?_eq_some_iff.mpr h, rfl⟩
    next n => exact map_cast_eq_some_iff.mpr ⟨n, natural?_eq_some_iff.mpr h, rfl⟩

/-- **Of these exactly the integers of 32 bits are read as such.** -/
theorem readInt32?_eq_some_iff {i : Int32} : readInt32? text = some i ↔ Signed text i.toInt := by
  rw [← read?_eq_some_iff, readInt32?, Option.bind_eq_some_iff]
  constructor
  · rintro ⟨z, read, fits⟩
    simp only [Option.ite_none_right_eq_some, Option.some.injEq] at fits
    obtain ⟨fits, rfl⟩ := fits
    simp only [fitsInt32, Bool.and_eq_true, decide_eq_true_eq] at fits
    rw [read, Int32.toInt_ofInt_of_le fits.1 (Int.lt_add_one_of_le fits.2)]
  · intro read
    refine ⟨i.toInt, read, ?_⟩
    have fits : fitsInt32 i.toInt = true := by
      simp only [fitsInt32, Bool.and_eq_true, decide_eq_true_eq]
      exact ⟨i.minValue_le_toInt, i.toInt_le⟩
    rw [if_pos fits, Int32.ofInt_toInt]

end Text.Decimal

/-! ## Percentages -/

namespace TargetSize

open Text.Decimal

variable {target : TargetSize} {text : String} {percent raw : Int} {n : Nat}

/-- A text reads as a percentage: an integer of 32 bits in decimal digits after at most one sign,
and then one percent sign. -/
def Percentage (text : String) (percent : Int) : Prop :=
  ∃ number, text.toList = number ++ ['%'] ∧ Signed number percent ∧
    Int32.minValue.toInt ≤ percent ∧ percent ≤ Int32.maxValue.toInt

/-- **Exactly the percentages are read as such.** -/
theorem percent?_eq_some_iff {p : Int32} : percent? text = some p ↔ Percentage text p.toInt := by
  have bounds := And.intro p.minValue_le_toInt p.toInt_le
  constructor
  · intro h
    unfold percent? at h
    split at h
    next number reversed =>
      refine ⟨number.reverse, ?_, readInt32?_eq_some_iff.mp h, bounds⟩
      rw [← List.reverse_reverse text.toList, reversed, List.reverse_cons]
    next => cases h
  · rintro ⟨number, written, signed, _⟩
    rw [percent?, written, List.reverse_append, List.reverse_singleton, List.singleton_append]
    simpa using readInt32?_eq_some_iff.mpr signed

/-- A percentage is one of the integers that are read. -/
theorem Percentage.exists_percent? (h : Percentage text percent) :
    ∃ p : Int32, percent? text = some p ∧ p.toInt = percent := by
  have same : (Int32.ofInt percent).toInt = percent := by
    obtain ⟨_, _, _, low, high⟩ := h
    rw [Int32.toInt_minValue] at low
    rw [Int32.toInt_maxValue] at high
    exact Int32.toInt_ofInt_of_le low (Int.lt_of_le_sub_one high)
  exact ⟨Int32.ofInt percent, percent?_eq_some_iff.mpr (by rwa [same]), same⟩

/-- A text is one percentage at most. -/
theorem Percentage.unique {percent' : Int} (h : Percentage text percent)
    (h' : Percentage text percent') : percent = percent' := by
  obtain ⟨p, read, rfl⟩ := h.exists_percent?
  obtain ⟨p', read', rfl⟩ := h'.exists_percent?
  rw [read] at read'
  rw [Option.some.inj read']

theorem percent?_eq_none_iff : percent? text = none ↔ ¬∃ percent, Percentage text percent := by
  constructor
  · rintro unread ⟨percent, h⟩
    obtain ⟨p, read, _⟩ := h.exists_percent?
    rw [unread] at read
    cases read
  · intro no_percentage
    cases read : percent? text with
    | none => rfl
    | some p => exact absurd ⟨p.toInt, percent?_eq_some_iff.mp read⟩ no_percentage

/-! ## What a target speaks of -/

/-- The number of pods that a target itself speaks of when `qualifying` pods qualify: a count, or
the greatest number that is not above the percentage of them. -/
inductive Speaks (qualifying : Nat) : TargetSize → Int → Prop
  | count (c : Int32) : Speaks qualifying (.count c) c.toInt
  | percentage {text : String} {percent raw : Int} : Percentage text percent →
      IsGreatest {r : Int | 100 * r ≤ percent * qualifying} raw → Speaks qualifying (.text text) raw

/-- Dividing by a hundred gives the greatest number whose hundredfold is not above. -/
theorem isGreatest_ediv (a : Int) : IsGreatest {r : Int | 100 * r ≤ a} (a / 100) := by
  constructor
  · show 100 * (a / 100) ≤ a
    omega
  · intro r (below : 100 * r ≤ a)
    omega

theorem share_eq_ok_iff : target.share n = .ok raw ↔ Speaks n target raw := by
  constructor
  · intro h
    cases target with
    | count c =>
      obtain rfl := Except.ok.inj h
      exact .count c
    | text s =>
      cases read : percent? s with
      | none => simp [share, read] at h
      | some p =>
        simp only [share, read, Except.ok.injEq] at h
        exact .percentage (percent?_eq_some_iff.mp read) (h ▸ isGreatest_ediv _)
  · rintro (c | ⟨h, greatest⟩)
    · rfl
    · obtain ⟨p, read, rfl⟩ := h.exists_percent?
      simp only [share, read, (isGreatest_ediv _).unique greatest]

theorem share_eq_error_iff {e : PlacementError} :
    target.share n = .error e ↔
      ∃ s, target = .text s ∧ (¬∃ percent, Percentage s percent) ∧ e = .invalidTargetSize s := by
  cases target with
  | count c => simp [share]
  | text s =>
    simp only [← percent?_eq_none_iff, text.injEq, exists_eq_left']
    cases read : percent? s with
    | none => simp [share, read, eq_comm]
    | some p => simp [share, read]

/-! ## What a target requires -/

/-- The number of claimed pods is what the target speaks of, or all pods but that many. -/
theorem required_eq_ok_iff {action : Action} {wanted : Int} :
    target.required n action = .ok wanted ↔
      ∃ raw, Speaks n target raw ∧
        wanted = match action with
          | .must => raw
          | .mustNot => n - raw := by
  simp only [← share_eq_ok_iff, required]
  cases target.share n with
  | error e => simp [Except.map]
  | ok raw => cases action <;> simp [Except.map, eq_comm]

theorem required_eq_error_iff {action : Action} {e : PlacementError} :
    target.required n action = .error e ↔ target.share n = .error e := by
  rw [required]
  cases target.share n <;> simp [Except.map]

theorem Percentage.moderate (h : Percentage text percent) (low : 0 ≤ percent)
    (high : percent ≤ 100) : (TargetSize.text text).Moderate := by
  obtain ⟨p, read, rfl⟩ := h.exists_percent?
  exact ⟨p, read, low, high⟩

/-- A percentage of none to all of the pods speaks of none to all of them. -/
theorem Speaks.between {s : String} (h : Speaks n (.text s) raw) (read : Percentage s percent)
    (low : 0 ≤ percent) (high : percent ≤ 100) : 0 ≤ raw ∧ raw ≤ n := by
  cases h with
  | percentage again greatest =>
    obtain rfl := read.unique again
    have hn : (0 : Int) ≤ n := Int.natCast_nonneg n
    have below : 100 * raw ≤ percent * n := greatest.1
    have most : percent * n ≤ 100 * n := Int.mul_le_mul_of_nonneg_right high hn
    exact ⟨greatest.2 (Int.mul_nonneg low hn), by omega⟩

/-- **What a target requires.**  Computing it fails for exactly those texts that are no
percentage, and then names the text.  Otherwise it gives what the target speaks of, or all of the
pods but that many where the action keeps pods away.  For a percentage of none to all of the pods
that is none to all of them, and no fewer when more pods qualify. -/
theorem required_computed (target : TargetSize) (n : Nat) (action : Action) :
    (∀ e, target.required n action = .error e ↔
      ∃ s, target = .text s ∧ (¬∃ percent, Percentage s percent) ∧ e = .invalidTargetSize s) ∧
    (∀ wanted, target.required n action = .ok wanted ↔
      ∃ raw, Speaks n target raw ∧
        wanted = match action with
          | .must => raw
          | .mustNot => n - raw) ∧
    ∀ s percent, target = .text s → Percentage s percent → 0 ≤ percent → percent ≤ 100 →
      ∃ wanted : Nat → Int, (∀ m, target.required m action = .ok (wanted m)) ∧
        (∀ m, 0 ≤ wanted m ∧ wanted m ≤ m) ∧ ∀ m m', m ≤ m' → wanted m ≤ wanted m' := by
  refine ⟨fun e => required_eq_error_iff.trans share_eq_error_iff,
    fun wanted => required_eq_ok_iff, ?_⟩
  rintro s percent rfl read low high
  have moderate : (TargetSize.text s).Moderate := read.moderate low high
  obtain ⟨wanted, hw⟩ := Classical.skolem.mp fun m =>
    exists_required moderate.wellFormed m action
  have mono : Monotone wanted := monotone_nat_of_le_succ fun m =>
    (required_succ_of_moderate moderate (hw m) (hw (m + 1))).1
  refine ⟨wanted, hw, fun m => ?_, fun m m' le => mono le⟩
  obtain ⟨raw, speaks, is_wanted⟩ := required_eq_ok_iff.mp (hw m)
  have between : 0 ≤ raw ∧ raw ≤ m := speaks.between read low high
  cases action <;> simp only at is_wanted <;> omega

/-- A third of ten pods, with a sign and a zero that change nothing, leaves seven pods when it is
to be kept away, and a percentage with a sign below zero asks for fewer than none. -/
theorem required_third :
    Percentage "+033%" 33 ∧ (TargetSize.text "+033%").required 10 .mustNot = .ok 7 ∧
      (∃ wanted : Nat → Int,
        (∀ m, (TargetSize.text "+033%").required m .mustNot = .ok (wanted m)) ∧
          (∀ m, 0 ≤ wanted m ∧ wanted m ≤ m) ∧ ∀ m m', m ≤ m' → wanted m ≤ wanted m') ∧
      Speaks 10 (.text "-33%") (-4) ∧
      (TargetSize.text "33%%").required 10 .must = .error (.invalidTargetSize "33%%") := by
  have third : Percentage "+033%" 33 :=
    percent?_eq_some_iff (p := 33).mp (by decide +kernel)
  have computed := required_computed (.text "+033%") 10 .mustNot
  exact ⟨third, by decide +kernel, computed.2.2 _ 33 rfl third (by decide) (by decide),
    share_eq_ok_iff.mp (by decide +kernel), by decide +kernel⟩

end TargetSize

end Placement
