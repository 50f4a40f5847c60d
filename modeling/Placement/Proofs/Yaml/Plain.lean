import Mathlib.Data.String.Basic
import Placement.Proofs.Yaml.Written

/-!
# Plain scalars read back

A text that is written without quotes is read up to the colon after it or up to the next line
that is not indented enough.  Positions only count where a line begins, and for how long a key
may be; they are told by the text that was passed over.

## Main definitions

* `Place.through` — the position after a text.
* `Visible` — a character that no reading passes over.
* `Opens` — a line, with the column at which it begins.

The main statements are `Scalar.plain_text`, `Scalar.plain_colon` and `Scalar.plain_newline`.
-/

namespace Placement.Yaml

/-! ## Positions -/

namespace Place

/-- The position after a text whose line breaks are unified. -/
def through (p : Place) (text : List Char) : Place :=
  text.foldl (fun p c => if isBreak c then p.newline else p.past c) p

variable {c : Char} {text : List Char}

@[simp] theorem through_nil (p : Place) : p.through [] = p := rfl

theorem through_cons_break (h : isBreak c = true) (p : Place) (text : List Char) :
    p.through (c :: text) = p.newline.through text := by
  simp [through, h]

theorem through_cons (h : isBreak c = false) (p : Place) (text : List Char) :
    p.through (c :: text) = (p.past c).through text := by
  simp [through, h]

@[simp] theorem through_append (p : Place) (text more : List Char) :
    p.through (text ++ more) = (p.through text).through more :=
  List.foldl_append

/-- On one line a position only moves on by characters. -/
theorem through_flat (flat : ∀ c ∈ text, isBreak c = false) (p : Place) :
    p.through text = p.pastAll text := by
  induction text generalizing p with
  | nil => rfl
  | cons c rest ih =>
    rw [through_cons (flat c (by simp)), ih (fun d mem => flat d (by simp [mem]))]
    rfl

@[simp] theorem line_pastAll (p : Place) (text : List Char) : (p.pastAll text).line = p.line := by
  induction text generalizing p with
  | nil => rfl
  | cons c rest ih => exact ih (p.past c)

@[simp] theorem column_pastAll (p : Place) (text : List Char) :
    (p.pastAll text).column = p.column + text.length := by
  induction text generalizing p with
  | nil => rfl
  | cons c rest ih =>
    have step : (p.pastAll (c :: rest)).column = (p.past c).column + rest.length := ih (p.past c)
    rw [step, List.length_cons]
    simp only [past]
    omega

@[simp] theorem index_pastAll (p : Place) (text : List Char) :
    (p.pastAll text).index = p.index + String.utf8Len text := by
  induction text generalizing p with
  | nil => rfl
  | cons c rest ih =>
    have step : (p.pastAll (c :: rest)).index = (p.past c).index + String.utf8Len rest :=
      ih (p.past c)
    rw [step, String.utf8Len_cons]
    simp only [past]
    omega

theorem line_le_through (p : Place) (text : List Char) : p.line ≤ (p.through text).line := by
  induction text generalizing p with
  | nil => exact Nat.le_refl _
  | cons c rest ih =>
    by_cases broken : isBreak c = true
    · rw [through_cons_break broken]
      exact Nat.le_trans (Nat.le_succ _) (ih p.newline)
    · rw [through_cons (by simpa using broken)]
      exact ih (p.past c)

theorem through_spaces (p : Place) (count : Nat) :
    p.through (Outline.spaces count) = p.pastAll (Outline.spaces count) := by
  apply through_flat
  intro c mem
  rw [List.eq_of_mem_replicate mem]
  rfl

@[simp] theorem column_through_spaces (p : Place) (count : Nat) :
    (p.through (Outline.spaces count)).column = p.column + count := by
  rw [through_spaces, column_pastAll, Outline.spaces, List.length_replicate]

@[simp] theorem line_through_spaces (p : Place) (count : Nat) :
    (p.through (Outline.spaces count)).line = p.line := by
  rw [through_spaces, line_pastAll]

end Place

/-! ## Lines -/

/-- What is neither passed over nor a comment at the beginning of a line. -/
def Visible (c : Char) : Prop :=
  isSpacing c = false ∧ c ≠ '#' ∧ c ≠ byteOrderMark

instance (c : Char) : Decidable (Visible c) :=
  inferInstanceAs (Decidable (_ ∧ _))

/-- A text goes on with a line that begins at a column, or it ends. -/
structure Opens (column : Nat) (next after : List Char) : Prop where
  split : next = Outline.spaces column ++ after
  starts : ∀ c ∈ after.head?, Visible c

/-- It is told by the text where its line begins. -/
theorem Opens.unique {column column' : Nat} {next after after' : List Char}
    (opens : Opens column next after) (opens' : Opens column' next after') :
    column = column' ∧ after = after' := by
  have same := opens.split.symm.trans opens'.split
  have starts := opens.starts
  have startsToo := opens'.starts
  clear opens opens'
  induction column generalizing column' with
  | zero =>
    cases column' with
    | zero => exact ⟨rfl, same⟩
    | succ column' =>
      have first : after.head? = some ' ' := congrArg List.head? same
      exact absurd (starts ' ' first) (by decide)
  | succ column ih =>
    cases column' with
    | zero =>
      have first : some ' ' = after'.head? := congrArg List.head? same
      exact absurd (startsToo ' ' first.symm) (by decide)
    | succ column' =>
      obtain ⟨columns, texts⟩ := ih (List.cons.inj same).2
      exact ⟨congrArg Nat.succ columns, texts⟩

namespace Scalar

open Outline

variable {c : Char} {text follow rest next after read chars : List Char} {p : Place}
  {indent : Int} {column : Nat}

/-! ## Texts without marks -/

theorem endsWord_append (h : endsBefore text = false) (follow : List Char) :
    endsWord (text ++ follow) = false := by
  cases text with
  | nil => simp [endsBefore] at h
  | cons c rest =>
    simp only [endsBefore, breaksLine, Bool.or_eq_false_iff] at h
    simp [endsWord, isSpacing, h]

/-- What the first character of a text without marks is not. -/
theorem of_startsWithMark (h : startsWithMark (c :: rest) = false) :
    isIndicator c = false ∧ ((c = '?' ∨ c = ':' ∨ c = '-') → endsBefore rest = false) := by
  unfold startsWithMark at h
  split at h
  · cases h
  · cases h
  · next d more _ _ same =>
    cases same
    simp only [Bool.or_eq_false_iff, Bool.and_eq_false_iff, beq_eq_false_iff_ne] at h
    refine ⟨h.1, fun mark => ?_⟩
    rcases h.2 with ⟨⟨query, colon⟩, hyphen⟩ | goesOn
    · tauto
    · exact goesOn
  · next same => cases same

/-- What is known of a text that can be written without quotes. -/
theorem of_allowsPlain (allows : allowsPlain text = true) :
    (∀ c ∈ text, isPrintable c = true) ∧ hasLooseEnd text = false ∧
      text.any breaksLine = false ∧ startsWithMark text = false ∧
        holdsMark false (text.drop 1) = false := by
  simp only [allowsPlain, Bool.and_eq_true, Bool.not_eq_true'] at allows
  obtain ⟨⟨⟨⟨special, loose⟩, flat⟩, start⟩, mark⟩ := allows
  exact ⟨isPrintable_of_not_hasSpecial special, loose, flat, start, mark⟩

/-- The first character of a text that can be written without quotes is no blank and no
break. -/
theorem isSpacing_head (allows : allowsPlain (c :: rest) = true) : isSpacing c = false := by
  obtain ⟨own, loose, -⟩ := of_allowsPlain allows
  have char := own c (by simp)
  simp only [hasLooseEnd, List.head?_cons, Option.any_some, Bool.or_eq_false_iff] at loose
  rw [isSpacing, isBlank_of_isPrintable char, ← breaksLine_of_isPrintable char]
  simp [loose.1]

/-- A text that can be written without quotes begins with what is not passed over. -/
theorem visible_head (allows : allowsPlain (c :: rest) = true) : Visible c := by
  obtain ⟨own, -, -, start, -⟩ := of_allowsPlain allows
  refine ⟨isSpacing_head allows, ?_, ne_of_isPrintable (own c (by simp)) (by decide)⟩
  rintro rfl
  exact absurd (of_startsWithMark start).1 (by decide)

/-! ## Plain scalars -/

/-- A colon inside a text without marks does not end the scalar. -/
theorem not_ends_of_goesOn (goesOn : c = ':' → endsBefore rest = false) (follow : List Char) :
    ¬((c = ':' ∧ endsWord (rest ++ follow) = true) ∨ (false = true ∧ isFlowMark c = true)) := by
  rintro (⟨colon, ends⟩ | ⟨flow, -⟩)
  · simp [endsWord_append (goesOn colon)] at ends
  · cases flow

/-- A character of a plain scalar that is no blank is read, with the blanks before it. -/
theorem plain_solid (solid : isSpacing c = false) (goesOn : c = ':' → endsBefore rest = false)
    (clear : chars ≠ [] → c ≠ '#' ∧ indent ≤ p.column ∧ 0 < p.column) :
    plain false indent (c :: (rest ++ follow)) p (.blanks chars) read =
      plain false indent (rest ++ follow) (p.past c) .none (c :: (chars ++ read)) := by
  simp only [isSpacing, Bool.or_eq_false_iff] at solid
  have stays : ¬((Gap.blanks chars).isSome = true ∧
      ((!false) = true ∧ (p.column : Int) < indent ∨ c = '#' ∨
        p.column = 0 ∧ atDocumentMark (c :: (rest ++ follow)) = true)) := by
    rintro ⟨some, ends⟩
    have held : chars ≠ [] := by
      rintro rfl
      simp [Gap.isSome] at some
    obtain ⟨notComment, deep, inLine⟩ := clear held
    rcases ends with shallow | comment | start
    · omega
    · exact notComment comment
    · omega
  rw [plain, if_neg (by simp [solid]), if_neg (by simp [solid]), if_neg stays, if_neg (by simp),
    if_neg (not_ends_of_goesOn goesOn follow)]
  rfl

/-- Reading passes over the characters of a plain scalar after the first. -/
theorem plain_inside (own : ∀ c ∈ text, isPrintable c = true)
    (flat : text.any breaksLine = false) (tight : text.getLast?.any isSpace = false)
    (trimmed : text = [] → chars = []) (unmarked : holdsMark (!chars.isEmpty) text = false)
    (deep : indent ≤ p.column) (inLine : 0 < p.column) :
    plain false indent (text ++ follow) p (.blanks chars) read =
      plain false indent follow (p.through text) .none (text.reverse ++ (chars ++ read)) := by
  induction text generalizing p chars read with
  | nil =>
    rw [trimmed rfl]
    rfl
  | cons c rest ih =>
    have ownRest : ∀ d ∈ rest, isPrintable d = true := fun d mem => own d (by simp [mem])
    simp only [List.any_cons, Bool.or_eq_false_iff] at flat
    have tightRest : rest.getLast?.any isSpace = false := by
      cases rest with
      | nil => rfl
      | cons d more => simpa [List.getLast?_cons_cons] using tight
    have unbroken : isBreak c = false := by
      rw [← breaksLine_of_isPrintable (own c (by simp))]
      exact flat.1
    simp only [holdsMark, flat.1, Bool.or_false, Bool.or_eq_false_iff,
      Bool.and_eq_false_iff] at unmarked
    rw [List.cons_append, Place.through_cons unbroken]
    have blank := isBlank_of_isPrintable (own c (by simp))
    have moved : indent ≤ ((p.past c).column : Int) := by
      simp only [Place.past]
      omega
    have movedIn : 0 < (p.past c).column := Nat.succ_pos _
    by_cases space : isSpace c = true
    · have held : rest ≠ [] := by
        rintro rfl
        simp [space] at tight
      rw [plain, if_pos (by rw [blank]; exact space), if_neg (by simp [Gap.isBroken]), Gap.blank,
        ih ownRest flat.2 tightRest (fun none => absurd none held)
          (by simpa [blank, space] using unmarked.2) moved movedIn]
      simp
    · have solid : isSpacing c = false := by simp [isSpacing, blank, space, unbroken]
      have goesOn : c = ':' → endsBefore rest = false := by
        rintro rfl
        exact unmarked.1.1.resolve_left (by simp)
      have clear : chars ≠ [] → c ≠ '#' ∧ indent ≤ p.column ∧ 0 < p.column := by
        refine fun some => ⟨?_, deep, inLine⟩
        rintro rfl
        simp [some] at unmarked
      rw [plain_solid solid goesOn clear, Gap.none, ih ownRest flat.2 tightRest (fun _ => rfl)
        (by simpa [blank, space] using unmarked.2) moved movedIn]
      simp [Gap.none]

/-- **A text is read where it is written without quotes**, up to what follows. -/
theorem plain_text (allows : allowsPlain text = true) (held : text ≠ [])
    (deep : indent ≤ p.column + 1) (follow : List Char) :
    plain false indent (text ++ follow) p .none [] =
      plain false indent follow (p.through text) .none text.reverse := by
  obtain ⟨c, rest, rfl⟩ := List.exists_cons_of_ne_nil held
  have solid := isSpacing_head allows
  obtain ⟨own, loose, flat, start, unmarked⟩ := of_allowsPlain allows
  have goesOn : c = ':' → endsBefore rest = false :=
    fun colon => (of_startsWithMark start).2 (.inr (.inl colon))
  have tight : rest.getLast?.any isSpace = false := by
    cases rest with
    | nil => rfl
    | cons d more =>
      simp only [hasLooseEnd, List.getLast?_cons_cons, Bool.or_eq_false_iff] at loose
      cases last : (d :: more).getLast? with
      | none => rfl
      | some e =>
        rw [last, Option.any_some, Bool.or_eq_false_iff] at loose
        exact loose.2.1
  have unbroken : isBreak c = false := by
    simp only [isSpacing, Bool.or_eq_false_iff] at solid
    exact solid.2
  rw [List.cons_append, Gap.none, plain_solid solid goesOn (fun some => absurd rfl some),
    Place.through_cons unbroken, Gap.none, plain_inside (fun d mem => own d (by simp [mem]))
      (by simp only [List.any_cons, Bool.or_eq_false_iff] at flat; exact flat.2) tight
      (fun _ => rfl) (by simpa using unmarked) (by simp only [Place.past]; omega) (Nat.succ_pos _)]
  simp [Gap.none]

/-- A plain scalar ends before the colon of its value. -/
theorem plain_colon (ends : endsWord rest = true) :
    plain false indent (':' :: rest) p .none read = some ⟨read.reverse, false, p, ':' :: rest⟩ := by
  rw [plain, if_neg (by decide), if_neg (by decide), if_neg (by simp [Gap.isSome, Gap.none]),
    if_neg (by simp), if_pos (by simp [ends])]
  rfl

theorem plain_spaces {first : Option Char} {more : List Char} (count : Nat) :
    plain false indent (spaces count ++ rest) p (.broken first more) read =
      plain false indent rest (p.through (spaces count)) (.broken first more) read := by
  induction count generalizing p with
  | zero => rfl
  | succ count ih =>
    rw [spaces, List.replicate_succ, List.cons_append, plain, if_pos (by decide),
      if_neg (by simp), Place.through_cons (by decide)]
    exact ih

/-- A plain scalar ends where a line is not indented enough. -/
theorem plain_newline (opens : Opens column next after) (shallow : (column : Int) < indent) :
    plain false indent ('\n' :: next) p .none read =
      some ⟨read.reverse, true, p.newline.through (spaces column), after⟩ := by
  have there : (p.newline.through (spaces column)).column = column := by
    simp [Place.newline]
  rw [plain, if_neg (by decide), if_pos (by decide), opens.split, Gap.none, Gap.lineBreak,
    plain_spaces]
  cases after with
  | nil => rw [plain]; rfl
  | cons c more =>
    have char := (opens.starts c rfl).1
    simp only [isSpacing, Bool.or_eq_false_iff] at char
    rw [plain, if_neg (by simp [char]), if_neg (by simp [char]),
      if_pos ⟨rfl, .inl ⟨rfl, by rw [there]; exact shallow⟩⟩]
    rfl

end Scalar

end Placement.Yaml
