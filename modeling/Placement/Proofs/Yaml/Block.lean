import Placement.Proofs.Yaml.Quoted

/-!
# Literal blocks read back

The breaks at the end of a literal block only count as far as the sign in its header says.
So the reading of its lines is followed together with the text so far, and with which of its
last breaks were set aside.

## Main definitions

* `Scalar.isInside` — a text goes on with its last line.
* `Scalar.Lines.Holds` — the lines that were read are a text.
* `Scalar.indentedChar` — a character of a text as it stands in a block.

The main statement is `Scalar.block_literal`.
-/

namespace Placement.Yaml.Scalar

open Outline

variable {c : Char} {text rest next after done : List Char} {p : Place} {count column : Nat}
  {chomping : Chomping} {read : Lines}

/-! ## Lines -/

/-- Whether a text, in reverse, ends inside a line. -/
def isInside : List Char → Bool
  | [] => false
  | c :: _ => !isBreak c

@[simp] theorem isInside_nil : isInside [] = false := rfl

/-- The lines that were read so far are a text, in reverse.  Breaks are set aside at the end of a
line only, the first of them as that of the line. -/
structure Lines.Holds (read : Lines) (done : List Char) : Prop where
  all : read.empties ++ (read.lineEnd ++ read.text) = done
  inside : isInside done = true → read.empties = [] ∧ read.lineEnd = []
  single : ∀ c before, done = c :: before → isInside before = true → isBreak c = true →
    read.empties = []

theorem Lines.Holds.nil : Lines.Holds {} [] where
  all := rfl
  inside none := by simp [isInside] at none
  single _ _ same := by simp at same

/-- The spaces before a line are passed over. -/
theorem lines_spaces {spacing : Nat} (fits : p.column + spacing ≤ count) :
    lines false count chomping (spaces spacing ++ rest) p false read =
      lines false count chomping rest (p.through (spaces spacing)) false read := by
  induction spacing generalizing p with
  | zero => rfl
  | succ spacing ih =>
    rw [spaces, List.replicate_succ, List.cons_append, lines, if_pos ⟨rfl, by omega⟩,
      Place.through_cons (by decide)]
    exact ih (by simp only [Place.past]; omega)

/-- A break inside a line ends it. -/
theorem Lines.Holds.lineEnd (holds : read.Holds done) (inside : isInside done = true)
    (breaks : isBreak c = true) :
    Lines.Holds { read with lineEnd := [c], empties := [] } (c :: done) where
  all := by
    have all := holds.all
    rw [(holds.inside inside).1, (holds.inside inside).2] at all
    simpa using all
  inside again := by simp [isInside, breaks] at again
  single _ _ _ _ _ := rfl

/-- A break between lines is set aside. -/
theorem Lines.Holds.empty (holds : read.Holds done) (outside : isInside done = false)
    (breaks : isBreak c = true) :
    Lines.Holds { read with empties := c :: read.empties } (c :: done) where
  all := by simpa using holds.all
  inside again := by simp [isInside, breaks] at again
  single _ _ same inside _ := by
    cases same
    simp [outside] at inside

/-- A character between lines begins a line. -/
theorem Lines.Holds.start (holds : read.Holds done) (c : Char) (blank : Bool) :
    Lines.Holds { text := c :: read.beforeLine false blank, indented := blank } (c :: done) where
  all := by simpa [Lines.beforeLine] using holds.all
  inside _ := ⟨rfl, rfl⟩
  single _ _ _ _ _ := rfl

/-- A character inside a line belongs to it. -/
theorem Lines.Holds.char (holds : read.Holds done) (inside : isInside done = true) (c : Char) :
    Lines.Holds { read with text := c :: read.text } (c :: done) where
  all := by
    have all := holds.all
    rw [(holds.inside inside).1, (holds.inside inside).2] at all ⊢
    simpa using all
  inside _ := holds.inside inside
  single _ _ _ _ _ := (holds.inside inside).1

/-- A character of a text as it stands in an indented block. -/
def indentedChar (count : Nat) (fresh : Bool) (c : Char) : List Char :=
  if isBreak c then [c] else (if fresh then spaces count else []) ++ [c]

theorem indented_cons (count : Nat) (fresh : Bool) (c : Char) (text : List Char) :
    indented count fresh (c :: text) =
      indentedChar count fresh c ++ indented count (isBreak c) text := by
  rw [indented, indentedChar]
  by_cases breaks : isBreak c = true
  · simp [breaks]
  · simp only [Bool.not_eq_true] at breaks
    cases fresh <;> simp [breaks]

/-- **Reading goes on after a character of a block**, and holds the text up to it. -/
theorem lines_char (count : Nat) (chomping : Chomping) (rest : List Char) (notTab : c ≠ '\t')
    (holds : read.Holds done) (begins : isInside done = false → p.column = 0) :
    ∃ read', lines false count chomping (indentedChar count (!isInside done) c ++ rest) p
        (isInside done) read =
      lines false count chomping rest (p.through (indentedChar count (!isInside done) c))
        (isInside (c :: done)) read' ∧ read'.Holds (c :: done) ∧
      (isInside (c :: done) = false →
        (p.through (indentedChar count (!isInside done) c)).column = 0) := by
  rw [indentedChar, show isInside (c :: done) = !isBreak c from rfl]
  by_cases breaks : isBreak c = true
  · have notSpace : c ≠ ' ' := by
      rintro rfl
      exact absurd breaks (by decide)
    rw [if_pos breaks, List.cons_append, List.nil_append, Place.through_cons_break breaks, breaks]
    cases inside : isInside done with
    | true =>
      refine ⟨_, ?_, holds.lineEnd inside breaks, fun _ => rfl⟩
      rw [lines, if_pos breaks]
      rfl
    | false =>
      refine ⟨_, ?_, holds.empty inside breaks, fun _ => rfl⟩
      rw [lines, if_neg (by simp [notSpace]), if_neg (by simp [notTab]), if_pos breaks]
      rfl
  · have solid : isBreak c = false := by simpa using breaks
    rw [if_neg breaks, solid]
    cases inside : isInside done with
    | true =>
      refine ⟨_, ?_, holds.char inside c, by simp⟩
      simp only [Bool.not_true, Bool.false_eq_true, if_false, List.nil_append, List.cons_append]
      rw [lines, if_neg breaks, Place.through_cons solid]
      rfl
    | false =>
      have there : (p.through (spaces count)).column = count := by simp [begins inside]
      refine ⟨_, ?_, holds.start c (isBlank c), by simp⟩
      simp only [Bool.not_false, if_true, List.append_assoc, List.cons_append, List.nil_append]
      rw [lines_spaces (by simp [begins inside]), lines, if_neg (by omega), if_neg (by omega),
        if_neg breaks, if_pos there, Place.through_append, Place.through_cons solid]
      rfl

/-- **Reading goes through indented lines**, and holds their text then. -/
theorem lines_indented (count : Nat) (chomping : Chomping) (rest : List Char)
    (own : ∀ c ∈ text, isPrintable c = true) (holds : read.Holds done)
    (begins : isInside done = false → p.column = 0) :
    ∃ read', lines false count chomping (indented count (!isInside done) text ++ rest) p
        (isInside done) read =
      lines false count chomping rest (p.through (indented count (!isInside done) text))
        (isInside (text.reverse ++ done)) read' ∧ read'.Holds (text.reverse ++ done) ∧
      (isInside (text.reverse ++ done) = false →
        (p.through (indented count (!isInside done) text)).column = 0) := by
  induction text generalizing p done read with
  | nil => exact ⟨read, rfl, holds, begins⟩
  | cons c text ih =>
    have ownText : ∀ d ∈ text, isPrintable d = true := fun d mem => own d (by simp [mem])
    have notTab : c ≠ '\t' := ne_of_isPrintable (own c (by simp)) (by decide)
    obtain ⟨read₁, step, after, starts⟩ := lines_char count chomping
      (indented count (isBreak c) text ++ rest) notTab holds begins
    obtain ⟨read', later, result⟩ := ih ownText after starts
    have fresh : (!isInside (c :: done)) = isBreak c := by simp [isInside]
    rw [fresh] at later result
    rw [indented_cons, List.reverse_cons, List.append_assoc, List.append_assoc,
      List.cons_append, List.nil_append, Place.through_append]
    exact ⟨read', step.trans later, result⟩

/-- A block ends before a line that is not indented enough. -/
theorem lines_end (opens : Opens column next after) (shallow : column < count)
    (begins : p.column = 0) :
    lines false count chomping next p false read =
      some ⟨read.chomped chomping, false, p.through (spaces column), after⟩ := by
  have there : (p.through (spaces column)).column = column := by simp [begins]
  rw [opens.split, lines_spaces (by omega)]
  cases after with
  | nil => rw [lines]
  | cons c more =>
    have char := (opens.starts c rfl).1
    simp only [isSpacing, isBlank, Bool.or_eq_false_iff, beq_eq_false_iff_ne] at char
    rw [lines, if_neg (by simp [char]), if_neg (by simp [char]), if_neg (by simp [char]),
      if_neg (by omega)]

/-! ## Headers -/

/-- What becomes of the breaks at the end of a text that is written as a literal block. -/
def chompingOf (text : List Char) : Chomping :=
  if chompingSign text = ['-'] then .strip
  else if chompingSign text = ['+'] then .keep
  else .clip

/-- The digit in the header of a text that is written as a literal block. -/
def depthSign (text : List Char) : List Char :=
  if text.head?.any fun c => isSpace c || isBreak c then ['2'] else []

theorem chompingSign_cases (text : List Char) :
    chompingSign text = [] ∨ chompingSign text = ['-'] ∨ chompingSign text = ['+'] := by
  unfold chompingSign
  split <;> (try split_ifs) <;> simp

theorem isBreak_of_mem_signs (h : c ∈ depthSign text ++ chompingSign text) :
    isBreak c = false := by
  rcases List.mem_append.1 h with depth | sign
  · unfold depthSign at depth
    split at depth
    · rw [List.mem_singleton.1 depth]; decide
    · simp at depth
  · rcases chompingSign_cases text with same | same | same <;> rw [same] at sign
    · simp at sign
    · rw [List.mem_singleton.1 sign]; decide
    · rw [List.mem_singleton.1 sign]; decide

theorem header_written (text more : List Char) :
    header (depthSign text ++ (chompingSign text ++ '\n' :: more)) =
      some (⟨chompingOf text, if depthSign text = [] then none else some 2⟩, '\n' :: more) := by
  have depth : depthSign text = [] ∨ depthSign text = ['2'] := by
    unfold depthSign
    split <;> simp
  rw [chompingOf]
  rcases depth with depth | depth <;> rcases chompingSign_cases text with sign | sign | sign <;>
    rw [depth, sign] <;> rfl

/-- The sign in the header keeps the breaks that the text has. -/
theorem chomped_of_outside (holds : read.Holds text.reverse) (some : text ≠ [])
    (outside : isInside text.reverse = false) : read.chomped (chompingOf text) = text := by
  have all := holds.all
  cases done : text.reverse with
  | nil => simp at done; exact absurd done some
  | cons c before =>
    have breaks : isBreak c = true := by simpa [done, isInside] using outside
    rw [done] at all
    cases inside : isInside before with
    | true =>
      have none := holds.single c before done inside breaks
      have sign : chompingOf text = .clip := by
        cases before with
        | nil => simp [isInside] at inside
        | cons d more =>
          have solid : isBreak d = false := by simpa [isInside] using inside
          simp [chompingOf, chompingSign, done, breaks, solid]
      rw [none, List.nil_append] at all
      rw [sign, Lines.chomped, all, ← done, List.reverse_reverse]
    | false =>
      have sign : chompingOf text = .keep := by
        cases before with
        | nil => simp [chompingOf, chompingSign, done, breaks]
        | cons d more =>
          have again : isBreak d = true := by simpa [isInside] using inside
          simp [chompingOf, chompingSign, done, breaks, again]
      rw [sign, Lines.chomped, all, ← done, List.reverse_reverse]

/-- Of a text without a break at its end, the break after it is not kept. -/
theorem chomped_of_inside (holds : read.Holds text.reverse)
    (inside : isInside text.reverse = true) :
    Lines.chomped { read with lineEnd := ['\n'], empties := [] } (chompingOf text) = text := by
  have all := holds.all
  rw [(holds.inside inside).1, (holds.inside inside).2] at all
  have sign : chompingOf text = .strip := by
    unfold chompingOf chompingSign
    cases done : text.reverse with
    | nil => simp
    | cons c before =>
      have solid : isBreak c = false := by simpa [done, isInside] using inside
      cases before <;> simp [solid]
  rw [sign, Lines.chomped]
  simpa using congrArg List.reverse all

/-! ## Blocks -/

theorem opening_spaces {spacing : Nat} :
    opening (spaces spacing ++ rest) p 0 [] = opening rest (p.through (spaces spacing)) 0 [] := by
  induction spacing generalizing p with
  | zero => rfl
  | succ spacing ih =>
    rw [spaces, List.replicate_succ, List.cons_append, opening, if_pos rfl,
      Place.through_cons (by decide)]
    exact ih

/-- Without a digit in the header, the first line tells how far a block is indented, and is
read with the others. -/
theorem opening_indented (count : Nat) (rest : List Char) (chomping : Chomping)
    (own : ∀ c ∈ text, isPrintable c = true) (some : text ≠ []) (untold : depthSign text = [])
    (begins : p.column = 0) :
    ∃ first, opening (indented count true text ++ rest) p 0 [] = Option.some first ∧
      first.deepest = count ∧ first.breaks = [] ∧
      lines false count chomping first.rest first.place false {} =
        lines false count chomping (indented count true text ++ rest) p false {} := by
  obtain ⟨c, more, rfl⟩ := List.exists_cons_of_ne_nil some
  have solid : isSpace c = false ∧ isBreak c = false := by
    unfold depthSign at untold
    split at untold
    · simp at untold
    · next neither => simpa using neither
  have notSpace : c ≠ ' ' := by
    rintro rfl
    exact absurd solid.1 (by decide)
  have notTab : c ≠ '\t' := ne_of_isPrintable (own c (by simp)) (by decide)
  have first : indented count true (c :: more) =
      spaces count ++ c :: indented count false more := by
    rw [indented, if_neg (by simp [solid]), if_pos rfl]
  have depth : (p.through (spaces count)).column = count := by simp [begins]
  have fits : p.column + count ≤ count := by omega
  rw [first, List.append_assoc, lines_spaces fits, opening_spaces, List.cons_append, opening,
    if_neg notSpace, if_neg notTab, if_neg (by simp [solid])]
  exact ⟨_, rfl, by simp only [depth, Nat.zero_max], rfl, rfl⟩

/-- The break that is written after a literal block, if its text has none at its end. -/
def lineFeed (text : List Char) : List Char :=
  if text.getLast?.any isBreak then [] else ['\n']

theorem lineFeed_eq (text : List Char) :
    lineFeed text = if isInside text.reverse || text.isEmpty then ['\n'] else [] := by
  rw [lineFeed, ← List.head?_reverse]
  cases done : text.reverse with
  | nil => simp at done; simp [done]
  | cons c before =>
    have held : text ≠ [] := by rintro rfl; simp at done
    by_cases breaks : isBreak c = true <;> simp [isInside, held, breaks]

/-- The lines of a literal block read as its text. -/
theorem lines_literal (own : ∀ c ∈ text, isPrintable c = true) (some : text ≠ [])
    (opens : Opens column next after) (shallow : column < count) (begins : p.column = 0) :
    lines false count (chompingOf text) (indented count true text ++ (lineFeed text ++ next)) p
        false {} =
      Option.some ⟨text, false,
        p.through (indented count true text ++ (lineFeed text ++ spaces column)), after⟩ ∧
      (p.through (indented count true text ++ (lineFeed text ++ spaces column))).column =
        column := by
  obtain ⟨read, step, holds, start⟩ := lines_indented count (chompingOf text)
    (lineFeed text ++ next) own Lines.Holds.nil (fun _ => begins)
  simp only [List.append_nil, isInside_nil, Bool.not_false] at holds start step
  rw [step, lineFeed_eq, Place.through_append]
  cases inside : isInside text.reverse with
  | true =>
    simp only [Bool.true_or, if_true, List.cons_append, List.nil_append]
    rw [lines, if_pos (by decide), lines_end opens shallow rfl, chomped_of_inside holds inside,
      Place.through_cons_break (by decide)]
    exact ⟨rfl, by simp [Place.newline]⟩
  | false =>
    simp only [Bool.false_or, List.isEmpty_iff, some, if_false, List.nil_append]
    rw [lines_end opens shallow (start inside), chomped_of_outside holds some inside]
    exact ⟨rfl, by simp [start inside]⟩

/-- **A text is read where it is written as a literal block.** -/
theorem block_literal {level : Nat} (own : ∀ c ∈ text, isPrintable c = true) (some : text ≠ [])
    (opens : Opens column next after) (shallow : column < level + 2) :
    block false level p (depthSign text ++ (chompingSign text ++
        '\n' :: (indented (level + 2) true text ++ (lineFeed text ++ next)))) =
      Option.some ⟨text, false, p.through (depthSign text ++ (chompingSign text ++
        '\n' :: (indented (level + 2) true text ++ (lineFeed text ++ spaces column)))), after⟩ ∧
      (p.through (depthSign text ++ (chompingSign text ++
        '\n' :: (indented (level + 2) true text ++ (lineFeed text ++ spaces column))))).column =
          column := by
  have result := fun p begins => lines_literal (p := p) own some opens shallow begins
  have comment : ∀ (p : Place) (more : List Char),
      skipComment p ('\n' :: more) = (p, '\n' :: more) := fun _ _ => rfl
  rw [block, header_written]
  simp only [← List.append_assoc (depthSign text)]
  rw [Place.through_append, Place.through_flat fun c => isBreak_of_mem_signs,
    Place.through_cons_break (by decide), List.length_append, Nat.add_sub_cancel, List.take_left,
    comment]
  simp only [endsLine, show isBreak '\n' = true by decide, Bool.not_true, Bool.false_eq_true,
    if_false]
  have begins : (p.pastAll (depthSign text ++ chompingSign text)).newline.column = 0 := rfl
  generalize (p.pastAll (depthSign text ++ chompingSign text)).newline = start at begins ⊢
  refine ⟨?_, (result start begins).2⟩
  by_cases untold : depthSign text = []
  · obtain ⟨first, opening, deepest, none, same⟩ :=
      opening_indented (level + 2) (lineFeed text ++ next) (chompingOf text) own some untold begins
    have least : max first.deepest (max ((level : Int) + 1) 1).toNat = level + 2 := by omega
    rw [if_pos untold]
    simp only [opening, least, none, same]
    exact (result start begins).1
  · rw [if_neg untold]
    have level_eq : (max (level : Int) 0).toNat = level := by omega
    simp only [level_eq]
    exact (result start begins).1

end Placement.Yaml.Scalar
