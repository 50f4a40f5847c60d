import Mathlib.Data.List.Basic
import Mathlib.Tactic.Tauto
import Placement.Yaml.Document
import Placement.Yaml.Outline

/-!
# What a written document is made of

Every character of a written document can stand as it is: those that cannot are written
by their code points.  So a document holds only characters that a text may hold, and
nothing in it changes when its line breaks are unified.

## Main definitions

* `Outline.Styled` — the ways in which a text can be written, with what each of them asks
  of the text and what comes of it.

The main statements are `isPrintable_of_mem_entriesAt` and `unifyBreaks_of_printable`.
-/

namespace Placement.Yaml

/-! ## Characters that can stand as they are -/

namespace Outline

variable {c : Char} {text : List Char} {indent : Nat}

theorem isAllowed_of_isPrintable (h : isPrintable c = true) : isAllowed c = true := by
  simp only [isPrintable, isAllowed, Bool.or_eq_true, Bool.and_eq_true, beq_iff_eq,
    decide_eq_true_eq] at h ⊢
  tauto

theorem ne_of_isPrintable {d : Char} (h : isPrintable c = true) (other : isPrintable d = false) :
    c ≠ d := by
  rintro rfl
  simp [h] at other

/-- A character that can stand as it is breaks a line only as one of unified breaks. -/
theorem breaksLine_of_isPrintable (h : isPrintable c = true) : breaksLine c = isBreak c := by
  have notReturn : c ≠ '\r' := ne_of_isPrintable h (by decide)
  have notNext : c ≠ nextLine := ne_of_isPrintable h (by decide)
  simp only [breaksLine, beq_eq_false_iff_ne.2 notReturn, beq_eq_false_iff_ne.2 notNext,
    Bool.or_false]

/-- The only blank that can stand as it is is the space. -/
theorem isBlank_of_isPrintable (h : isPrintable c = true) : isBlank c = isSpace c := by
  have notTab : c ≠ '\t' := ne_of_isPrintable h (by decide)
  simp [isBlank, isSpace, notTab]

theorem isPrintable_of_not_hasSpecial (h : hasSpecial text = false) :
    ∀ c ∈ text, isPrintable c = true := by
  intro c mem
  simp only [hasSpecial, List.any_eq_false] at h
  simpa using h c mem

end Outline

open Outline in
/-- Nothing changes in a text without carriage returns and next-line controls. -/
theorem unifyBreaks_of_printable {text : List Char} (h : ∀ c ∈ text, isPrintable c = true) :
    unifyBreaks text = text := by
  induction text using unifyBreaks.induct with
  | case1 => rfl
  | case2 rest ih => exact absurd (h '\r' (by simp)) (by decide)
  | case3 c rest notPair ih =>
    have notReturn : c ≠ '\r' := ne_of_isPrintable (h c (by simp)) (by decide)
    have notNext : c ≠ nextLine := ne_of_isPrintable (h c (by simp)) (by decide)
    have later := ih fun d mem => h d (by simp [mem])
    rw [unifyBreaks, later]
    · simp [notReturn, notNext]
    · exact notPair

namespace Outline

variable {c : Char} {text : List Char} {indent : Nat}

/-! ## Ways of writing a text -/

/-- The ways in which a text can be written with an indentation, with what each of them asks of
the text and what comes of it. -/
inductive Styled (indent : Nat) (text : List Char) : Style → (written : List Char) → Prop
  | plain (clear : misleads text = false) (allows : allowsPlain text = true) :
    Styled indent text .plain text
  | single (flat : '\n' ∉ text) (allows : allowsSingle text = true) :
    Styled indent text .single ('\'' :: singleQuoted indent false text)
  | double : Styled indent text .double (doubleQuoted text)
  | literal (tall : '\n' ∈ text) (allows : allowsLiteral text = true) :
    Styled indent text .literal (literal indent text)

/-- A text is written in a way that it allows. -/
theorem styled (indent : Nat) (text : List Char) :
    Styled indent text (style text) (scalar indent text) := by
  unfold scalar style
  by_cases tall : '\n' ∈ text
  · by_cases literal : allowsLiteral text = true
    · simpa [tall, literal] using Styled.literal tall literal
    · simpa [tall, literal] using Styled.double
  · by_cases plain : misleads text = false ∧ allowsPlain text = true
    · simpa [tall, plain] using Styled.plain plain.1 plain.2
    · by_cases single : allowsSingle text = true
      · simpa [tall, plain, single] using Styled.single tall single
      · simpa [tall, plain, single] using Styled.double

/-! ## Characters of scalars -/

theorem isPrintable_of_mem_spaces (h : c ∈ spaces indent) : isPrintable c = true := by
  rw [spaces, List.mem_replicate] at h
  rw [h.2]
  rfl

theorem mem_indented {fresh : Bool} (h : c ∈ indented indent fresh text) :
    c ∈ text ∨ c ∈ spaces indent := by
  induction text generalizing fresh with
  | nil => simp [indented] at h
  | cons d rest ih =>
    rw [indented] at h
    split at h
    · rcases List.mem_cons.1 h with rfl | later
      · simp
      · exact (ih later).imp (by simp +contextual) id
    · split at h
      · simp only [List.mem_append, List.mem_cons] at h
        rcases h with space | rfl | later
        · exact .inr space
        · simp
        · exact (ih later).imp (by simp +contextual) id
      · rcases List.mem_cons.1 h with rfl | later
        · simp
        · exact (ih later).imp (by simp +contextual) id

theorem mem_singleQuoted {fresh : Bool} (h : c ∈ singleQuoted indent fresh text) :
    c ∈ text ∨ c ∈ spaces indent ∨ c = '\'' := by
  induction text generalizing fresh with
  | nil =>
    rw [singleQuoted] at h
    split at h
    · exact .inr (by simpa using h)
    · exact .inr (.inr (by simpa using h))
  | cons d rest ih =>
    rw [singleQuoted] at h
    split at h
    · rcases List.mem_cons.1 h with rfl | later
      · simp
      · exact (ih later).imp (by simp +contextual) id
    · simp only [List.mem_append] at h
      rcases h with space | char | later
      · by_cases isFresh : fresh = true
        · exact .inr (.inl (by simpa [isFresh] using space))
        · simp [isFresh] at space
      · by_cases quote : d = '\''
        · exact .inr (.inr (by simpa [quote] using char))
        · rw [if_neg quote, List.mem_singleton] at char
          simp [char]
      · exact (ih later).imp (by simp +contextual) id

/-- A digit of a code point is a digit or a letter of ASCII. -/
theorem isAlphanum_hexDigit {value : Nat} (h : value < 16) :
    (hexDigit value).isAlphanum = true := by
  have all : ∀ value < 16, (hexDigit value).isAlphanum = true := by decide
  exact all value h

theorem toNat_of_isAlphanum (h : c.isAlphanum = true) : 48 ≤ c.toNat ∧ c.toNat ≤ 122 := by
  change ((c.isUpper || c.isLower) || c.isDigit) = true at h
  rw [Bool.or_eq_true, Bool.or_eq_true] at h
  rcases h with (upper | lower) | digit
  · have bounds : 65 ≤ c.toNat ∧ c.toNat ≤ 90 := of_decide_eq_true upper
    omega
  · obtain ⟨low, high⟩ := (Bool.and_eq_true _ _).mp lower
    have low : 97 ≤ c.toNat := of_decide_eq_true low
    have high : c.toNat ≤ 122 := of_decide_eq_true high
    omega
  · obtain ⟨low, high⟩ := (Bool.and_eq_true _ _).mp digit
    have low : 48 ≤ c.toNat := of_decide_eq_true low
    have high : c.toNat ≤ 57 := of_decide_eq_true high
    omega

theorem isPrintable_of_isAlphanum (h : c.isAlphanum = true) : isPrintable c = true := by
  obtain ⟨low, high⟩ := toNat_of_isAlphanum h
  simp only [isPrintable, Bool.or_eq_true, Bool.and_eq_true, decide_eq_true_eq, Char.le_def,
    UInt32.le_iff_toNat_le]
  refine .inl (.inl (.inr ?_))
  change 32 ≤ c.toNat ∧ c.toNat ≤ 126
  omega

theorem isBreak_of_isAlphanum (h : c.isAlphanum = true) : isBreak c = false := by
  have other : ∀ {d : Char}, d.isAlphanum = false → c ≠ d := by
    rintro d not rfl
    simp [h] at not
  have lineFeed : c ≠ '\n' := other (by decide)
  have line : c ≠ lineSeparator := other (by decide)
  have paragraph : c ≠ paragraphSeparator := other (by decide)
  simp [isBreak, lineFeed, line, paragraph]

theorem isAlphanum_of_mem_hexDigits {count value : Nat} (h : c ∈ hexDigits count value) :
    c.isAlphanum = true := by
  induction count generalizing value with
  | zero => simp [hexDigits] at h
  | succ count ih =>
    simp only [hexDigits, List.mem_append, List.mem_singleton] at h
    rcases h with before | rfl
    · exact ih before
    · exact isAlphanum_hexDigit (Nat.mod_lt _ (by decide))

theorem isPrintable_of_mem_codePoint {d : Char} (h : c ∈ codePoint d) : isPrintable c = true := by
  rw [codePoint] at h
  apply isPrintable_of_isAlphanum
  split_ifs at h
  all_goals
    rcases List.mem_cons.1 h with rfl | digit
    · rfl
    · exact isAlphanum_of_mem_hexDigits digit

theorem isPrintable_of_escapeLetter? {letter : Char} (h : escapeLetter? c = some letter) :
    isPrintable letter = true := by
  unfold escapeLetter? at h
  split at h <;> cases h <;> rfl

theorem isPrintable_of_mem_doubleQuotedChar {d : Char} (h : c ∈ doubleQuotedChar d) :
    isPrintable c = true := by
  rw [doubleQuotedChar] at h
  split at h
  · next asItIs => rw [List.mem_singleton.1 h]; exact asItIs.1
  · split at h
    · next letter known =>
      rcases List.mem_cons.1 h with rfl | mem
      · rfl
      · rw [List.mem_singleton.1 mem]
        exact isPrintable_of_escapeLetter? known
    · rcases List.mem_cons.1 h with rfl | mem
      · rfl
      · exact isPrintable_of_mem_codePoint mem

theorem isPrintable_of_mem_chompingSign (h : c ∈ chompingSign text) : isPrintable c = true := by
  have sign : chompingSign text = [] ∨ chompingSign text = ['-'] ∨ chompingSign text = ['+'] := by
    unfold chompingSign
    split <;> (try split_ifs) <;> simp
  rcases sign with sign | sign | sign <;> rw [sign] at h
  · simp at h
  · rw [List.mem_singleton.1 h]; rfl
  · rw [List.mem_singleton.1 h]; rfl

/-- A text that can be written with its own characters holds none that cannot stand as they
are. -/
theorem Styled.isPrintable {style : Style} {written : List Char}
    (styled : Styled indent text style written) (other : style ≠ .double) :
    ∀ c ∈ text, isPrintable c = true := by
  apply isPrintable_of_not_hasSpecial
  cases styled with
  | plain _ allows =>
    simp only [allowsPlain, Bool.and_eq_true, Bool.not_eq_true'] at allows
    tauto
  | single _ allows =>
    simp only [allowsSingle, Bool.and_eq_true, Bool.not_eq_true'] at allows
    tauto
  | double => exact absurd rfl other
  | literal _ allows =>
    simp only [allowsLiteral, Bool.and_eq_true, Bool.not_eq_true'] at allows
    tauto

theorem isPrintable_of_mem_literal (own : ∀ c ∈ text, isPrintable c = true)
    (h : c ∈ literal indent text) : isPrintable c = true := by
  simp only [literal, List.mem_cons, List.mem_append] at h
  rcases h with rfl | depth | sign | rfl | line
  · rfl
  · split at depth
    · rw [List.mem_singleton.1 depth]; rfl
    · simp at depth
  · exact isPrintable_of_mem_chompingSign sign
  · rfl
  · exact (mem_indented line).elim (own c) isPrintable_of_mem_spaces

/-- Every character of a scalar can stand as it is. -/
theorem isPrintable_of_mem_scalar (h : c ∈ scalar indent text) : isPrintable c = true := by
  have ways := styled indent text
  have own := ways.isPrintable
  generalize style text = way, scalar indent text = written at ways own h
  cases ways with
  | plain => exact own (by simp) c h
  | single =>
    rcases List.mem_cons.1 h with rfl | mem
    · rfl
    · rcases mem_singleQuoted mem with mem | space | rfl
      · exact own (by simp) c mem
      · exact isPrintable_of_mem_spaces space
      · rfl
  | double =>
    simp only [doubleQuoted, List.mem_cons, List.mem_append, List.mem_flatMap,
      List.not_mem_nil, or_false] at h
    rcases h with rfl | ⟨d, -, mem⟩ | rfl
    · rfl
    · exact isPrintable_of_mem_doubleQuotedChar mem
    · rfl
  | literal => exact isPrintable_of_mem_literal (own (by simp)) h

theorem isPrintable_of_mem_scalarLine (h : c ∈ scalarLine indent text) : isPrintable c = true := by
  rw [scalarLine] at h
  split at h
  · exact isPrintable_of_mem_scalar h
  · simp only [List.mem_append, List.mem_singleton] at h
    rcases h with mem | rfl
    · exact isPrintable_of_mem_scalar mem
    · rfl

/-! ## Numbers -/

theorem ne_of_isDigit {d : Char} (digit : c.isDigit = true) (other : d.isDigit = false) :
    c ≠ d := by
  rintro rfl
  simp [digit] at other

theorem isIndicator_of_isDigit (digit : c.isDigit = true) : isIndicator c = false := by
  have others : ∀ d ∈ "#,[]\x7b\x7d&*!|>'\"%@\x60".toList, d.isDigit = false := by simp
  rw [isIndicator, Bool.eq_false_iff]
  intro mark
  have digit' := others c (by simpa using mark)
  simp [digit] at digit'

theorem solid_of_isDigit (digit : c.isDigit = true) :
    isSpace c = false ∧ isBlank c = false ∧ breaksLine c = false := by
  have letter : c.isAlphanum = true := by simp [Char.isAlphanum, digit]
  have own := isPrintable_of_isAlphanum letter
  have notSpace : isSpace c = false := by
    simpa [isSpace] using ne_of_isDigit digit (show (' ' : Char).isDigit = false by decide)
  refine ⟨notSpace, ?_, ?_⟩
  · rw [isBlank_of_isPrintable own, notSpace]
  · rw [breaksLine_of_isPrintable own, isBreak_of_isAlphanum letter]

theorem startsWithMark_of_isDigit (digit : c.isDigit = true) (text : List Char) :
    startsWithMark (c :: text) = false ∧ startsWithMark ('-' :: c :: text) = false := by
  have notHyphen : c ≠ '-' := ne_of_isDigit digit (by decide)
  have notDot : c ≠ '.' := ne_of_isDigit digit (by decide)
  have notQuery : c ≠ '?' := ne_of_isDigit digit (by decide)
  have notColon : c ≠ ':' := ne_of_isDigit digit (by decide)
  have solid := solid_of_isDigit digit
  constructor
  · unfold startsWithMark
    split
    · next same => exact absurd (List.cons.inj same).1 notHyphen
    · next same => exact absurd (List.cons.inj same).1 notDot
    · next same =>
      cases same
      simp [isIndicator_of_isDigit digit, notHyphen, notQuery, notColon]
    · rfl
  · unfold startsWithMark
    split
    · next same => exact absurd (List.cons.inj (List.cons.inj same).2).1 notHyphen
    · next same => exact absurd (List.cons.inj same).1 (by decide)
    · next same =>
      cases same
      simp [endsBefore, solid, show isIndicator '-' = false by decide]
    · rfl

theorem holdsMark_of_digits {text : List Char} (digits : ∀ c ∈ text, c.isDigit = true)
    (spaced : Bool) : holdsMark spaced text = false := by
  induction text generalizing spaced with
  | nil => rfl
  | cons c rest ih =>
    have notColon : c ≠ ':' := ne_of_isDigit (digits c (by simp)) (by decide)
    have notHash : c ≠ '#' := ne_of_isDigit (digits c (by simp)) (by decide)
    rw [holdsMark, ih fun d mem => digits d (by simp [mem])]
    simp [notColon, notHash]

/-- A number is written as digits, with a hyphen before them if it is negative. -/
theorem write_cases (n : Int) : ∃ c digits, c.isDigit = true ∧ (∀ d ∈ digits, d.isDigit = true) ∧
    (Text.Decimal.write n = c :: digits ∨ Text.Decimal.write n = '-' :: c :: digits) := by
  have digits : ∀ m : Nat, ∃ c rest, Nat.toDigits 10 m = c :: rest ∧ c.isDigit = true ∧
      ∀ d ∈ rest, d.isDigit = true := by
    intro m
    have all : ∀ d ∈ Nat.toDigits 10 m, d.isDigit = true := fun d mem =>
      Nat.isDigit_of_mem_toDigits (by decide) (by decide) mem
    obtain ⟨c, rest, same⟩ := List.exists_cons_of_ne_nil (Nat.toDigits_ne_nil (b := 10) (n := m))
    rw [same] at all
    exact ⟨c, rest, same, all c (by simp), fun d mem => all d (by simp [mem])⟩
  cases n with
  | ofNat m =>
    obtain ⟨c, rest, same, first, others⟩ := digits m
    exact ⟨c, rest, first, others, .inl same⟩
  | negSucc m =>
    obtain ⟨c, rest, same, first, others⟩ := digits (m + 1)
    exact ⟨c, rest, first, others, .inr (by rw [Text.Decimal.write, same])⟩

theorem of_mem_write {n : Int} (h : c ∈ Text.Decimal.write n) : c = '-' ∨ c.isDigit = true := by
  obtain ⟨d, digits, digit, others, same | same⟩ := write_cases n <;> rw [same] at h <;>
    simp only [List.mem_cons] at h
  · rcases h with rfl | mem
    · exact .inr digit
    · exact .inr (others c mem)
  · rcases h with rfl | rfl | mem
    · exact .inl rfl
    · exact .inr digit
    · exact .inr (others c mem)

theorem isPrintable_of_mem_write {n : Int} (h : c ∈ Text.Decimal.write n) :
    isPrintable c = true := by
  rcases of_mem_write h with rfl | digit
  · rfl
  · exact isPrintable_of_isAlphanum (by simp [Char.isAlphanum, digit])

/-- A number holds no character with a meaning of its own. -/
theorem allowsPlain_write (n : Int) :
    allowsPlain (Text.Decimal.write n) = true ∧ Text.Decimal.write n ≠ [] := by
  obtain ⟨c, digits, digit, others, same⟩ := write_cases n
  have own : hasSpecial (Text.Decimal.write n) = false := by
    rw [hasSpecial, List.any_eq_false]
    intro d mem
    simp [isPrintable_of_mem_write mem]
  have solid : ∀ d ∈ Text.Decimal.write n, isSpace d = false ∧ breaksLine d = false := by
    intro d mem
    rcases of_mem_write mem with rfl | digit
    · decide
    · exact ⟨(solid_of_isDigit digit).1, (solid_of_isDigit digit).2.2⟩
  have flat : (Text.Decimal.write n).any breaksLine = false := by
    rw [List.any_eq_false]
    intro d mem
    simp [solid d mem]
  have tight : hasLooseEnd (Text.Decimal.write n) = false := by
    have ends : ∀ o : Option Char, (∀ d ∈ o, d ∈ Text.Decimal.write n) →
        o.any (fun d => isSpace d || breaksLine d) = false := by
      intro o mem
      cases o with
      | none => rfl
      | some d => simp [solid d (mem d rfl)]
    rw [hasLooseEnd, ends _ fun d => List.mem_of_head?, ends _ fun d => List.mem_of_getLast?]
    rfl
  have marks := startsWithMark_of_isDigit digit digits
  have clear : startsWithMark (Text.Decimal.write n) = false ∧
      holdsMark false ((Text.Decimal.write n).drop 1) = false := by
    rcases same with same | same <;> rw [same]
    · exact ⟨marks.1, holdsMark_of_digits others false⟩
    · refine ⟨marks.2, holdsMark_of_digits ?_ false⟩
      intro d mem
      rcases List.mem_cons.1 mem with rfl | mem
      · exact digit
      · exact others d mem
  refine ⟨?_, ?_⟩
  · simp only [allowsPlain, own, tight, flat, clear.1, clear.2]
    rfl
  · rcases same with same | same <;> rw [same] <;> simp

/-! ## Characters of documents -/

theorem isPrintable_of_mem_keyLine {key : String} (h : c ∈ keyLine indent key) :
    isPrintable c = true := by
  rw [keyLine] at h
  split at h
  · simp only [List.mem_append, List.mem_singleton] at h
    rcases h with space | mem | rfl
    · exact isPrintable_of_mem_spaces space
    · exact isPrintable_of_mem_scalar mem
    · rfl
  · simp only [List.mem_append, List.mem_cons, List.not_mem_nil, or_false] at h
    rcases h with space | rfl | rfl | mem | space | rfl
    · exact isPrintable_of_mem_spaces space
    · rfl
    · rfl
    · exact isPrintable_of_mem_scalarLine mem
    · exact isPrintable_of_mem_spaces space
    · rfl

mutual

theorem isPrintable_of_mem_afterColon : ∀ (outline : Outline) {indent : Nat} {c : Char},
    c ∈ afterColon indent outline → isPrintable c = true
  | .int value, _, c, h => by
    simp only [afterColon, List.mem_cons, List.mem_append, List.not_mem_nil, or_false] at h
    rcases h with rfl | digit | rfl
    · rfl
    · exact isPrintable_of_mem_write digit
    · rfl
  | .text s, _, c, h => by
    simp only [afterColon, List.mem_cons] at h
    rcases h with rfl | mem
    · rfl
    · exact isPrintable_of_mem_scalarLine mem
  | .mapping [], _, c, h => by
    simp only [afterColon, String.reduceToList, List.mem_cons, List.not_mem_nil, or_false] at h
    rcases h with rfl | rfl | rfl | rfl <;> rfl
  | .mapping (entry :: entries), _, c, h => by
    rw [afterColon] at h
    rcases List.mem_cons.1 h with rfl | mem
    · rfl
    · exact isPrintable_of_mem_entriesAt (entry :: entries) mem

/-- Every character of written entries can stand as it is. -/
theorem isPrintable_of_mem_entriesAt : ∀ (entries : List (String × Outline)) {indent : Nat}
    {c : Char}, c ∈ entriesAt indent entries → isPrintable c = true
  | [], _, c, h => by simp [entriesAt] at h
  | (key, value) :: rest, _, c, h => by
    simp only [entriesAt, List.mem_append] at h
    rcases h with mem | mem | mem
    · exact isPrintable_of_mem_keyLine mem
    · exact isPrintable_of_mem_afterColon value mem
    · exact isPrintable_of_mem_entriesAt rest mem

end

end Outline

end Placement.Yaml
