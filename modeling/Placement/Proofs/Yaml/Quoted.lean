import Placement.Proofs.Yaml.Plain

/-!
# Quoted scalars read back

Reading goes through what was written character by character.  In front of each character
stands a gap, and what was read of the scalar together with what the gap contributes is the
text so far.

## Main definitions

* `Scalar.Between` — the gaps that come up between single quotes.
* `Scalar.singleQuotedChar` — a character of a text as it stands there.

The main statements are `Scalar.single_singleQuoted` and `Scalar.double_doubleQuoted`, and, for
scalars on one line, `Scalar.isBreak_of_mem_scalar` and `Scalar.utf8Len_scalar`.
-/

namespace Placement.Yaml.Scalar

open Outline

variable {c : Char} {text rest read chars : List Char} {p : Place}

/-! ## Single quotes -/

/-- The gap before the next character of a text between single quotes; `fresh` tells whether
a line broke before.  A break does not follow blanks, and no blank follows a break. -/
inductive Between (text : List Char) : (fresh : Bool) → Gap → Prop
  | blanks {chars : List Char} (kept : chars ≠ [] → ∀ c ∈ text.head?, isBreak c = false) :
    Between text false (.blanks chars)
  | broken {first : Char} {more : List Char} (stays : first ≠ '\n')
    (kept : ∀ c ∈ text.head?, isSpace c = false) : Between text true (.broken (some first) more)

theorem joined_broken {first : Char} (stays : first ≠ '\n') (more read : List Char) :
    (Gap.broken (some first) more).joined read = more ++ first :: read := by
  unfold Gap.joined
  split <;> simp_all

/-- A line break in a text adds to the gap what it is. -/
theorem Between.lineBreak {fresh : Bool} {gap : Gap} (between : Between (c :: text) fresh gap)
    (breaks : isBreak c = true) (stays : c ≠ '\n') (next : ∀ d ∈ text.head?, isSpace d = false)
    (read : List Char) :
    Between text true (gap.lineBreak c) ∧ (gap.lineBreak c).joined read = c :: gap.joined read := by
  cases between with
  | @blanks chars kept =>
    have none : chars = [] := by
      by_contra some
      simp [kept some c rfl] at breaks
    subst none
    exact ⟨.broken stays next, joined_broken stays [] read⟩
  | broken before kept =>
    refine ⟨.broken before next, ?_⟩
    rw [Gap.lineBreak, joined_broken before, joined_broken before]
    rfl

/-- A space in a text does not follow a break, and adds to the gap what it is. -/
theorem Between.blank {fresh : Bool} {gap : Gap} (between : Between (c :: text) fresh gap)
    (space : isSpace c = true) (next : ∀ d ∈ text.head?, isBreak d = false) (read : List Char) :
    fresh = false ∧ Between text false (gap.blank c) ∧
      (gap.blank c).joined read = c :: gap.joined read := by
  cases between with
  | blanks => exact ⟨rfl, .blanks fun _ => next, rfl⟩
  | broken before kept => simp [kept c rfl] at space

/-- What two characters of a text are next to each other is told of its first two. -/
theorem of_adjacent {first second : Char → Bool} (h : adjacent first second (c :: rest) = false)
    (char : first c = true) : (∀ d ∈ rest.head?, second d = false) := by
  cases rest with
  | nil => simp
  | cons d more =>
    simp only [adjacent, char, Bool.true_and, Bool.or_eq_false_iff] at h
    simp [h.1]

theorem adjacent_tail {first second : Char → Bool} (h : adjacent first second (c :: rest) = false) :
    adjacent first second rest = false := by
  cases rest with
  | nil => rfl
  | cons d more =>
    simp only [adjacent, Bool.or_eq_false_iff] at h
    exact h.2

/-- One step of reading between single quotes. -/
theorem single_cons (c : Char) (rest : List Char) (p : Place) (gap : Gap) (read : List Char) :
    single (c :: rest) p gap read =
      if isBlank c then single rest (p.past c) (gap.blank c) read
      else if isBreak c then single rest p.newline (gap.lineBreak c) read
      else if cutOff p (c :: rest) then none
      else if c = '\'' then
        match rest with
        | '\'' :: more => single more ((p.past c).past c) .none ('\'' :: gap.joined read)
        | _ => some ⟨(gap.joined read).reverse, false, p.past c, rest⟩
      else single rest (p.past c) .none (c :: gap.joined read) := by
  exact single.eq_def (c :: rest) p gap read

theorem single_spaces {first : Option Char} {more : List Char} (count : Nat) :
    single (spaces count ++ rest) p (.broken first more) read =
      single rest (p.through (spaces count)) (.broken first more) read := by
  induction count generalizing p with
  | zero => rfl
  | succ count ih =>
    rw [spaces, List.replicate_succ, List.cons_append, single_cons, if_pos (by decide),
      Place.through_cons (by decide)]
    exact ih

/-- After the beginning of a line nothing cuts a scalar off. -/
theorem cutOff_of_inLine (inLine : 0 < p.column) (text : List Char) : cutOff p text = false := by
  simp only [cutOff, Bool.decide_and, Bool.decide_eq_true, Bool.and_eq_false_iff,
    decide_eq_false_iff_not]
  exact .inl (by omega)

theorem single_close {gap : Gap} (inLine : 0 < p.column) (alone : rest.head? ≠ some '\'') :
    single ('\'' :: rest) p gap read =
      some ⟨(gap.joined read).reverse, false, p.through ['\''], rest⟩ := by
  rw [single_cons, if_neg (by decide), if_neg (by decide),
    if_neg (by simp [cutOff_of_inLine inLine]), if_pos rfl]
  split
  · simp at alone
  · rfl

/-- A character between single quotes that is no blank and no break. -/
theorem single_solid {gap : Gap} (inLine : 0 < p.column) (solid : isSpacing c = false) :
    single ((if c = '\'' then ['\'', '\''] else [c]) ++ rest) p gap read =
      single rest (p.through (if c = '\'' then ['\'', '\''] else [c])) .none
        (c :: gap.joined read) := by
  simp only [isSpacing, Bool.or_eq_false_iff] at solid
  by_cases quote : c = '\''
  · subst quote
    simp only [if_true, List.cons_append, List.nil_append]
    rw [single_cons, if_neg (by decide), if_neg (by decide),
      if_neg (by simp [cutOff_of_inLine inLine]), if_pos rfl]
    rfl
  · simp only [if_neg quote, List.cons_append, List.nil_append]
    rw [single_cons, if_neg (by simp [solid]), if_neg (by simp [solid]),
      if_neg (by simp [cutOff_of_inLine inLine]), if_neg quote, Place.through_cons solid.2,
      Place.through_nil]

theorem inLine_single_solid (solid : isSpacing c = false) :
    0 < (p.through (if c = '\'' then ['\'', '\''] else [c])).column := by
  simp only [isSpacing, Bool.or_eq_false_iff] at solid
  split
  · exact Nat.succ_pos _
  · rw [Place.through_cons solid.2]
    exact Nat.succ_pos _

/-- A character of a text as it stands between single quotes. -/
def singleQuotedChar (count : Nat) (fresh : Bool) (c : Char) : List Char :=
  if isBreak c then [c]
  else (if fresh then spaces count else []) ++ if c = '\'' then ['\'', '\''] else [c]

theorem singleQuoted_cons (count : Nat) (fresh : Bool) (c : Char) (text : List Char) :
    singleQuoted count fresh (c :: text) =
      singleQuotedChar count fresh c ++ singleQuoted count (isBreak c) text := by
  rw [singleQuoted, singleQuotedChar]
  by_cases breaks : isBreak c = true
  · simp [breaks]
  · simp only [Bool.not_eq_true] at breaks
    simp [breaks]

/-- **A character between single quotes is read**, and the gap after it is one that can come up
there. -/
theorem single_char {count : Nat} {fresh : Bool} {gap : Gap} (deep : 0 < count)
    (own : isPrintable c = true) (stays : c ≠ '\n')
    (spaceBreak : isSpace c = true → ∀ d ∈ text.head?, isBreak d = false)
    (breakSpace : isBreak c = true → ∀ d ∈ text.head?, isSpace d = false)
    (between : Between (c :: text) fresh gap) (inLine : fresh = false → 0 < p.column)
    (read rest : List Char) :
    ∃ gap' read', Between text (isBreak c) gap' ∧ gap'.joined read' = c :: gap.joined read ∧
      (isBreak c = false → 0 < (p.through (singleQuotedChar count fresh c)).column) ∧
      single (singleQuotedChar count fresh c ++ rest) p gap read =
        single rest (p.through (singleQuotedChar count fresh c)) gap' read' := by
  have blank := isBlank_of_isPrintable own
  rw [singleQuotedChar]
  by_cases breaks : isBreak c = true
  · have notSpace : isSpace c = false := by
      by_contra space
      simp only [isSpace, Bool.not_eq_false, beq_iff_eq] at space
      rw [space] at breaks
      exact absurd breaks (by decide)
    obtain ⟨after, joined⟩ := between.lineBreak breaks stays (breakSpace breaks) read
    rw [if_pos breaks, List.cons_append, List.nil_append, single_cons,
      if_neg (by simp [blank, notSpace]), if_pos breaks, Place.through_cons_break breaks]
    exact ⟨_, _, breaks ▸ after, joined, by simp [breaks], rfl⟩
  · rw [if_neg breaks]
    simp only [Bool.not_eq_true] at breaks
    by_cases space : isSpace c = true
    · obtain ⟨rfl, after, joined⟩ := between.blank space (spaceBreak space) read
      have isSpace : c = ' ' := by simpa [isSpace] using space
      subst isSpace
      simp only [Bool.false_eq_true, if_false, List.nil_append, Char.reduceEq, List.cons_append]
      rw [single_cons, if_pos (by decide), Place.through_cons (by decide)]
      exact ⟨_, _, after, joined, fun _ => Nat.succ_pos _, rfl⟩
    · have solid : isSpacing c = false := by simp [isSpacing, blank, space, breaks]
      refine ⟨.none, c :: gap.joined read, breaks ▸ .blanks (by simp), rfl, ?_, ?_⟩
      · intro _
        rw [Place.through_append]
        exact inLine_single_solid solid
      · cases fresh with
        | false => exact single_solid (inLine rfl) solid
        | true =>
          cases between with
          | broken before kept =>
            rw [if_pos rfl, List.append_assoc, single_spaces, Place.through_append]
            exact single_solid (by simp; omega) solid

/-- **A text is read where it is written between single quotes.** -/
theorem single_singleQuoted {count : Nat} {fresh : Bool} {gap : Gap} (deep : 0 < count)
    (own : ∀ c ∈ text, isPrintable c = true) (flat : '\n' ∉ text)
    (spaceBreak : adjacent isSpace breaksLine text = false)
    (breakSpace : adjacent breaksLine isSpace text = false) (between : Between text fresh gap)
    (inLine : fresh = false → 0 < p.column) (alone : rest.head? ≠ some '\'') :
    single (singleQuoted count fresh text ++ rest) p gap read =
      some ⟨(gap.joined read).reverse ++ text, false,
        p.through (singleQuoted count fresh text), rest⟩ := by
  induction text generalizing fresh gap p read with
  | nil =>
    cases between with
    | blanks =>
      simp only [singleQuoted, Bool.false_eq_true, if_false, List.append_nil]
      exact single_close (inLine rfl) alone
    | broken stays =>
      simp only [singleQuoted, if_true, List.append_nil, List.append_assoc, Place.through_append]
      rw [single_spaces]
      exact single_close (by simp; omega) alone
  | cons c text ih =>
    have ownText : ∀ d ∈ text, isPrintable d = true := fun d mem => own d (by simp [mem])
    have char := own c (by simp)
    simp only [List.mem_cons, not_or] at flat
    have noBreak : isSpace c = true → ∀ d ∈ text.head?, isBreak d = false := by
      intro space d mem
      rw [← breaksLine_of_isPrintable (ownText d (List.mem_of_head? mem))]
      exact of_adjacent spaceBreak space d mem
    have noSpace : isBreak c = true → ∀ d ∈ text.head?, isSpace d = false := by
      intro breaks
      rw [← breaksLine_of_isPrintable char] at breaks
      exact of_adjacent breakSpace breaks
    obtain ⟨gap', read', after, joined, moved, step⟩ := single_char deep char (Ne.symm flat.1)
      noBreak noSpace between inLine read (singleQuoted count (isBreak c) text ++ rest)
    rw [singleQuoted_cons, List.append_assoc, step, ih ownText flat.2 (adjacent_tail spaceBreak)
      (adjacent_tail breakSpace) after moved, joined, Place.through_append]
    simp

/-! ## Double quotes -/

/-- The letter after a backslash stands for the character that it was written for. -/
theorem escaped?_escapeLetter? {letter : Char} (h : escapeLetter? c = some letter) :
    escaped? letter = some c ∧ isBreak letter = false := by
  rw [← Char.ofNat_toNat c]
  unfold escapeLetter? at h
  split at h <;> cases h
  all_goals
    next code =>
    rw [code]
    exact ⟨by decide, by decide⟩

/-- A digit of a code point reads as its value. -/
theorem hexDigit?_hexDigit {value : Nat} (h : value < 16) :
    hexDigit? (hexDigit value) = some value := by
  have all : ∀ value < 16, hexDigit? (hexDigit value) = some value := by decide
  exact all value h

/-- Digits of a code point that are not its last ones. -/
theorem double_hexDigits {count left value code : Nat} {gap : Gap} (small : value < 16 ^ count)
    (more : 0 < left) :
    double (hexDigits count value ++ rest) p (some (count + left, code)) gap read =
      double rest (p.through (hexDigits count value)) (some (left, code * 16 ^ count + value))
        gap read := by
  induction count generalizing left value rest with
  | zero =>
    have none : value = 0 := by simpa using small
    simp [hexDigits, none]
  | succ count ih =>
    have digit : value % 16 < 16 := Nat.mod_lt _ (by decide)
    have before : value / 16 < 16 ^ count := by
      rw [Nat.div_lt_iff_lt_mul (by decide), ← Nat.pow_succ]
      exact small
    rw [hexDigits, List.append_assoc, List.cons_append, List.nil_append,
      show count + 1 + left = count + (left + 1) by omega, ih before (Nat.succ_pos left), double,
      hexDigit?_hexDigit digit]
    simp only [Place.through_append]
    rw [Place.through_cons (isBreak_of_isAlphanum (isAlphanum_hexDigit digit))]
    simp only [Place.through_nil]
    rw [if_neg (by omega), Nat.succ_sub_one]
    congr 3
    rw [Nat.pow_succ]
    have parts := Nat.div_add_mod value 16
    generalize 16 ^ count = power
    rw [Nat.add_mul, Nat.mul_assoc]
    omega

/-- **A code point reads as its character.** -/
theorem double_code {count : Nat} {gap : Gap} (small : c.toNat < 16 ^ (count + 1)) :
    double (hexDigits (count + 1) c.toNat ++ rest) p (some (count + 1, 0)) gap read =
      double rest (p.through (hexDigits (count + 1) c.toNat)) none .none (c :: read) := by
  have digit : c.toNat % 16 < 16 := Nat.mod_lt _ (by decide)
  have before : c.toNat / 16 < 16 ^ count := by
    rw [Nat.div_lt_iff_lt_mul (by decide), ← Nat.pow_succ]
    exact small
  have code : charOf? c.toNat = some c := by
    rw [charOf?, if_pos (show c.toNat.isValidChar from c.valid), Char.ofNat_toNat]
  rw [hexDigits, List.append_assoc, List.cons_append, List.nil_append,
    double_hexDigits before (by decide), double, hexDigit?_hexDigit digit]
  simp only [Nat.zero_mul, Nat.zero_add, Nat.le_refl, if_true, Place.through_append]
  rw [Nat.div_add_mod', code,
    Place.through_cons (isBreak_of_isAlphanum (isAlphanum_hexDigit digit)), Place.through_nil]

/-- The digits of a code point are as many as its character needs. -/
theorem codePoint_eq (c : Char) :
    ∃ letter count, codePoint c = letter :: hexDigits (count + 1) c.toNat ∧
      escaped? letter = none ∧ codeDigits? letter = some (count + 1) ∧ isBreak letter = false ∧
      c.toNat < 16 ^ (count + 1) := by
  rw [codePoint]
  split_ifs with byte word
  · exact ⟨'x', 1, rfl, by decide, by decide, by decide, by omega⟩
  · exact ⟨'u', 3, rfl, by decide, by decide, by decide, by omega⟩
  · have bound : c.toNat < 0x110000 := by
      have valid : c.toNat.isValidChar := c.valid
      rcases valid with low | high
      · omega
      · exact high.2
    exact ⟨'U', 7, rfl, by decide, by decide, by decide, by omega⟩

theorem isBreak_of_mem_doubleQuotedChar {d : Char} (h : c ∈ doubleQuotedChar d) :
    isBreak c = false := by
  rw [doubleQuotedChar] at h
  split at h
  · next asItIs =>
    rw [List.mem_singleton.1 h, ← breaksLine_of_isPrintable asItIs.1]
    simpa using asItIs.2.1
  · split at h
    · next letter known =>
      rcases List.mem_cons.1 h with rfl | mem
      · decide
      · rw [List.mem_singleton.1 mem]
        exact (escaped?_escapeLetter? known).2
    · obtain ⟨letter, count, same, -, -, unbroken, -⟩ := codePoint_eq d
      rw [same] at h
      rcases List.mem_cons.1 h with rfl | mem
      · decide
      · rcases List.mem_cons.1 mem with rfl | mem
        · exact unbroken
        · exact isBreak_of_isAlphanum (isAlphanum_of_mem_hexDigits mem)

theorem inLine_doubleQuotedChar (inLine : 0 < p.column) :
    0 < (p.through (doubleQuotedChar c)).column := by
  rw [Place.through_flat (fun _ mem => isBreak_of_mem_doubleQuotedChar mem), Place.column_pastAll]
  omega

/-- One step of reading between double quotes, outside the digits of a code point. -/
theorem double_cons (c : Char) (rest : List Char) (p : Place) (gap : Gap) (read : List Char) :
    double (c :: rest) p none gap read =
      if isBlank c then double rest (p.past c) none (gap.blank c) read
      else if isBreak c then double rest p.newline none (gap.lineBreak c) read
      else if cutOff p (c :: rest) then none
      else if c = '"' then some ⟨(gap.joined read).reverse, false, p.past c, rest⟩
      else if c = '\\' then
        match rest with
        | [] => none
        | d :: more =>
          if isBreak d then
            double more (p.past c).newline none (.broken none []) (gap.joined read)
          else match escaped? d, codeDigits? d with
            | some char, _ => double more ((p.past c).past d) none .none (char :: gap.joined read)
            | none, some digits =>
              double more ((p.past c).past d) (some (digits, 0)) .none (gap.joined read)
            | none, none => none
      else double rest (p.past c) none .none (c :: gap.joined read) := by
  exact double.eq_def (c :: rest) p none gap read

/-- A character between double quotes. -/
theorem double_char (inLine : 0 < p.column) (chars read rest : List Char) :
    ∃ chars' read', chars' ++ read' = c :: (chars ++ read) ∧
      double (doubleQuotedChar c ++ rest) p none (.blanks chars) read =
        double rest (p.through (doubleQuotedChar c)) none (.blanks chars') read' := by
  rw [doubleQuotedChar]
  split
  · next asItIs =>
    obtain ⟨own, unbroken, notQuote, notEscape⟩ := asItIs
    have unbroken : isBreak c = false := by
      rw [← breaksLine_of_isPrintable own]
      simpa using unbroken
    by_cases blank : isBlank c = true
    · refine ⟨c :: chars, read, rfl, ?_⟩
      rw [List.cons_append, List.nil_append, double_cons, if_pos blank, Gap.blank,
        Place.through_cons unbroken, Place.through_nil]
    · refine ⟨[], c :: (chars ++ read), rfl, ?_⟩
      rw [List.cons_append, List.nil_append, double_cons, if_neg blank, if_neg (by simp [unbroken]),
        if_neg (by simp [cutOff_of_inLine inLine]), if_neg notQuote, if_neg notEscape,
        Place.through_cons unbroken, Place.through_nil]
      rfl
  · refine ⟨[], c :: (chars ++ read), rfl, ?_⟩
    split
    · next letter known =>
      obtain ⟨stands, unbroken⟩ := escaped?_escapeLetter? known
      rw [List.cons_append, List.cons_append, List.nil_append, double_cons, if_neg (by decide),
        if_neg (by decide), if_neg (by simp [cutOff_of_inLine inLine]), if_neg (by decide),
        if_pos rfl, Place.through_cons (by decide), Place.through_cons unbroken]
      simp [unbroken, stands, Gap.joined, Gap.none]
    · obtain ⟨letter, count, same, unknown, digits, unbroken, small⟩ := codePoint_eq c
      rw [same, List.cons_append, List.cons_append, double_cons, if_neg (by decide),
        if_neg (by decide), if_neg (by simp [cutOff_of_inLine inLine]), if_neg (by decide),
        if_pos rfl, Place.through_cons (by decide), Place.through_cons unbroken]
      simp only [unbroken, unknown, digits, Bool.false_eq_true, if_false]
      exact double_code small

/-- **A text is read where it is written between double quotes.** -/
theorem double_doubleQuoted (inLine : 0 < p.column) :
    double (text.flatMap doubleQuotedChar ++ '"' :: rest) p none (.blanks chars) read =
      some ⟨(chars ++ read).reverse ++ text, false,
        p.through (text.flatMap doubleQuotedChar ++ ['"']), rest⟩ := by
  induction text generalizing p chars read with
  | nil =>
    rw [List.flatMap_nil, List.nil_append, double_cons, if_neg (by decide), if_neg (by decide),
      if_neg (by simp [cutOff_of_inLine inLine]), if_pos rfl]
    simp [Gap.joined, Place.through_cons (show isBreak '"' = false by decide)]
  | cons c text ih =>
    obtain ⟨chars', read', same, step⟩ := double_char (c := c) inLine chars read
      (text.flatMap doubleQuotedChar ++ '"' :: rest)
    rw [List.flatMap_cons, List.append_assoc, step, ih (inLine_doubleQuotedChar inLine), same,
      List.append_assoc, Place.through_append]
    simp

/-! ## Scalars on one line -/

theorem isBreak_of_flat (flat : text.any breaksLine = false) : ∀ c ∈ text, isBreak c = false := by
  intro c mem
  have broken := List.any_eq_false.1 flat c mem
  simp only [breaksLine, Bool.or_eq_true, not_or] at broken
  simpa using broken.1.1

/-- A text without breaks is written on one line. -/
theorem isBreak_of_mem_scalar {count : Nat} (flat : text.any breaksLine = false)
    (h : c ∈ scalar count text) : isBreak c = false := by
  have unbroken := isBreak_of_flat flat
  have ways := styled count text
  generalize style text = way, scalar count text = written at ways h
  cases ways with
  | plain => exact unbroken c h
  | single =>
    rcases List.mem_cons.1 h with rfl | mem
    · decide
    · rcases mem_singleQuoted mem with own | space | rfl
      · exact unbroken c own
      · rw [List.eq_of_mem_replicate space]
        decide
      · decide
  | double =>
    simp only [doubleQuoted, List.mem_cons, List.mem_append, List.mem_flatMap,
      List.not_mem_nil, or_false] at h
    rcases h with rfl | ⟨d, -, mem⟩ | rfl
    · decide
    · exact isBreak_of_mem_doubleQuotedChar mem
    · decide
  | literal tall => exact absurd (unbroken '\n' tall) (by decide)

theorem utf8Size_eq (c : Char) : c.utf8Size =
    if c.toNat ≤ 0x7F then 1 else if c.toNat ≤ 0x7FF then 2
    else if c.toNat ≤ 0xFFFF then 3 else 4 := by
  simp only [Char.utf8Size, UInt32.le_iff_toNat_le]
  rfl

theorem utf8Len_hexDigits (count value : Nat) : String.utf8Len (hexDigits count value) = count := by
  induction count generalizing value with
  | zero => rfl
  | succ count ih =>
    have digit := toNat_of_isAlphanum
      (isAlphanum_hexDigit (Nat.mod_lt value (show 0 < 16 by decide)))
    rw [hexDigits, String.utf8Len_append, ih, String.utf8Len_cons, String.utf8Len_nil, utf8Size_eq,
      if_pos (by omega)]

/-- Between double quotes a character takes at most four times as many bytes. -/
theorem utf8Len_doubleQuotedChar (c : Char) :
    String.utf8Len (doubleQuotedChar c) ≤ 4 * c.utf8Size := by
  have positive := c.utf8Size_pos
  have escape : ('\\' : Char).utf8Size = 1 := by decide
  rw [doubleQuotedChar]
  split
  · rw [String.utf8Len_cons, String.utf8Len_nil]
    omega
  · split
    · next letter known =>
      have short : letter.utf8Size = 1 := by
        unfold escapeLetter? at known
        split at known <;> cases known <;> decide
      rw [String.utf8Len_cons, String.utf8Len_cons, String.utf8Len_nil, escape, short]
      omega
    · have x : ('x' : Char).utf8Size = 1 := by decide
      have u : ('u' : Char).utf8Size = 1 := by decide
      have longU : ('U' : Char).utf8Size = 1 := by decide
      have size := utf8Size_eq c
      rw [String.utf8Len_cons, codePoint, escape]
      split_ifs with byte word <;> rw [String.utf8Len_cons, utf8Len_hexDigits]
      · omega
      · rw [if_neg (by omega)] at size
        split_ifs at size <;> omega
      · rw [if_neg (by omega), if_neg (by omega), if_neg word] at size
        omega

theorem utf8Len_singleQuoted (count : Nat) (flat : ∀ c ∈ text, isBreak c = false) :
    String.utf8Len (singleQuoted count false text) ≤ 2 * String.utf8Len text + 1 := by
  have quote : ('\'' : Char).utf8Size = 1 := by decide
  induction text with
  | nil =>
    simp only [singleQuoted, Bool.false_eq_true, if_false, String.utf8Len_cons, String.utf8Len_nil,
      quote]
    omega
  | cons c rest ih =>
    have later := ih fun d mem => flat d (by simp [mem])
    rw [singleQuoted, if_neg (by simp [flat c]), if_neg (by simp), List.nil_append,
      String.utf8Len_append, String.utf8Len_cons]
    split
    · next same =>
      simp only [same, String.utf8Len_cons, String.utf8Len_nil, quote]
      omega
    · rw [String.utf8Len_cons, String.utf8Len_nil]
      omega

theorem utf8Len_doubleQuoted (text : List Char) :
    String.utf8Len (doubleQuoted text) ≤ 4 * String.utf8Len text + 2 := by
  have quote : ('"' : Char).utf8Size = 1 := by decide
  have inner : String.utf8Len (text.flatMap doubleQuotedChar) ≤ 4 * String.utf8Len text := by
    induction text with
    | nil => simp
    | cons c rest ih =>
      have char := utf8Len_doubleQuotedChar c
      rw [List.flatMap_cons, String.utf8Len_append, String.utf8Len_cons]
      omega
  rw [doubleQuoted, String.utf8Len_cons, String.utf8Len_append, String.utf8Len_cons,
    String.utf8Len_nil, quote]
  omega

/-- A text without breaks takes at most four times as many bytes, and its quotes. -/
theorem utf8Len_scalar (count : Nat) (flat : text.any breaksLine = false) :
    String.utf8Len (scalar count text) ≤ 4 * String.utf8Len text + 2 := by
  have unbroken := isBreak_of_flat flat
  have ways := styled count text
  generalize style text = way, scalar count text = written at ways ⊢
  cases ways with
  | plain => omega
  | single =>
    have quote : ('\'' : Char).utf8Size = 1 := by decide
    have inner := utf8Len_singleQuoted count unbroken
    rw [String.utf8Len_cons, quote]
    omega
  | double => exact utf8Len_doubleQuoted text
  | literal tall => exact absurd (unbroken '\n' tall) (by decide)

end Placement.Yaml.Scalar
