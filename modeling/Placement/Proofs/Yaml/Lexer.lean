import Mathlib.Logic.Relation
import Placement.Proofs.Yaml.Block

/-!
# Lexing written lines

Between two lines of a block it only matters which blocks are open, which tokens were read,
and where the next line begins: a scalar that ends with its line leaves nothing else behind.
So the reading of a line is stated from the beginning of one line to the beginning of the
next.

## Main definitions

* `Lexer.Steps`, `Lexer.Reaches` — reading one token, and some.
* `Lexer.Resumes` — the next line is about to be read.
* `Lexer.Ready` — the key or the value of an entry is about to be read.

The main statements are `readAll_of_reaches` and `read_scalarLine`.
-/

namespace Placement.Yaml.Lexer

open Outline

variable {l l' m : Lexer} {indent : Int} {outer : List Int} {tokens : List Token}
  {place : Place} {c : Char} {rest after next text : List Char} {column : Nat}

/-! ## Steps -/

/-- One token is read. -/
def Steps (l l' : Lexer) : Prop :=
  ∃ m, l.settle = some m ∧ m.read = some l' ∧ l'.rest.length < m.rest.length

/-- Some tokens are read. -/
def Reaches : Lexer → Lexer → Prop :=
  Relation.ReflTransGen Steps

theorem length_spacing (flow : Bool) (text : List Char) (p : Place) (allowed comment : Bool) :
    (spacing flow text p allowed comment).1.length ≤ text.length := by
  induction text generalizing p allowed comment with
  | nil => simp [spacing]
  | cons c rest ih =>
    have longer : ∀ p allowed comment,
        (spacing flow rest p allowed comment).1.length ≤ (c :: rest).length :=
      fun p allowed comment => Nat.le_succ_of_le (ih p allowed comment)
    rw [spacing]
    split_ifs
    · exact longer ..
    · exact longer ..
    · exact longer ..
    · exact longer ..
    · exact Nat.le_refl _

@[simp] theorem rest_closeBlocks (l : Lexer) (column : Int) :
    (l.closeBlocks column).rest = l.rest := by
  unfold closeBlocks
  split <;> rfl

/-- Between two tokens only characters are passed over. -/
theorem length_settle (settled : l.settle = some m) : m.rest.length ≤ l.rest.length := by
  have short := length_spacing l.inFlow l.rest l.place l.keyAllowed false
  rcases same : spacing l.inFlow l.rest l.place l.keyAllowed false with ⟨rest, place, allowed⟩
  rw [same] at short
  simp only [settle, same, Option.map_eq_some_iff] at settled
  obtain ⟨renewed, renewal, rfl⟩ := settled
  rw [rest_closeBlocks]
  unfold renewCandidates at renewal
  split at renewal
  · cases renewal
    exact short
  · cases renewal

/-- Reading all tokens goes on where some were read. -/
theorem readAll_of_reaches (reaches : Reaches l l') {fuel : Nat} (enough : l.rest.length < fuel) :
    ∃ fuel', l'.rest.length < fuel' ∧ readAll fuel l = readAll fuel' l' := by
  induction reaches with
  | refl => exact ⟨fuel, enough, rfl⟩
  | @tail b c _ step ih =>
    obtain ⟨fuel', enough, same⟩ := ih
    obtain ⟨m, settled, read, shorter⟩ := step
    have passed := length_settle settled
    cases fuel' with
    | zero => omega
    | succ fuel' =>
      refine ⟨fuel', by omega, ?_⟩
      have held : m.rest.isEmpty = false := by
        cases rest : m.rest with
        | nil => rw [rest] at shorter; simp at shorter
        | cons c more => rfl
      rw [same, readAll, settled]
      simp [held, read]

/-! ## Settling -/

/-- Outside flow collections, a lexer settles where its spaces end. -/
theorem settle_eq {allowed : Bool} {candidate : Option Candidate} (block : l.suspended = [])
    (spaced : spacing false l.rest l.place l.keyAllowed false = (rest, place, allowed))
    (renewed : renew place l.candidate = some candidate) :
    l.settle = some (({ l with
      rest := rest, place := place, keyAllowed := allowed, candidate := candidate }).closeBlocks
        place.column) := by
  have flow : l.inFlow = false := by simp [inFlow, block]
  simp only [settle, flow, spaced, renewCandidates, renewed, block]
  rfl

theorem spacing_spaces {allowed : Bool} (flow : Bool) (count : Nat) :
    spacing flow (spaces count ++ rest) place allowed false =
      spacing flow rest (place.through (spaces count)) allowed false := by
  induction count generalizing place with
  | zero => rfl
  | succ count ih =>
    rw [spaces, List.replicate_succ, List.cons_append, spacing, if_neg (by decide),
      if_neg (by simp), if_pos (.inl rfl), Place.through_cons (by decide)]
    exact ih

theorem spacing_visible {allowed : Bool} (flow : Bool) (starts : ∀ c ∈ after.head?, Visible c) :
    spacing flow after place allowed false = (after, place, allowed) := by
  cases after with
  | nil => rfl
  | cons c more =>
    obtain ⟨solid, notHash, notMark⟩ := starts c rfl
    simp only [isSpacing, isBlank, Bool.or_eq_false_iff, beq_eq_false_iff_ne] at solid
    rw [spacing, if_neg (by simp [solid]), if_neg (by simp), if_neg (by simp [solid, notMark]),
      if_neg notHash]

/-- No block is closed where the text is indented enough. -/
theorem closeBlocks_of_le (deep : l.indent ≤ column) : l.closeBlocks column = l := by
  unfold closeBlocks
  split
  · rfl
  · have kept : unwind column l.indent l.outer l.tokens = (l.indent, l.outer, l.tokens) := by
      cases l.outer with
      | nil => rfl
      | cons around outer => rw [unwind, if_neg (by omega)]
    rw [kept]

/-! ## Between lines -/

/-- A lexer at the beginning of a line of a block. -/
def atLine (indent : Int) (outer : List Int) (tokens : List Token) (place : Place)
    (rest : List Char) : Lexer where
  indent := indent
  outer := outer
  tokens := tokens
  place := place
  rest := rest

/-- A lexer is about to read a line that begins at a column, with these blocks open and these
tokens behind it. -/
def Resumes (l : Lexer) (indent : Int) (outer : List Int) (tokens : List Token) (column : Nat)
    (after : List Char) : Prop :=
  ∃ place : Place, place.column = column ∧
    l.settle = some ((atLine indent outer tokens place after).closeBlocks column)

/-- A block ends before a line that is indented less. -/
theorem Resumes.close {inner : Int}
    (resumes : Resumes l inner (indent :: outer) tokens column after) (shallow : column < inner) :
    Resumes l indent outer (.blockEnd :: tokens) column after := by
  obtain ⟨place, there, settled⟩ := resumes
  refine ⟨place, there, ?_⟩
  rw [settled]
  simp only [closeBlocks, inFlow, atLine, List.isEmpty_nil, Bool.not_true, Bool.false_eq_true,
    if_false]
  rw [unwind, if_pos shallow]

/-- A line that is indented enough is settled at. -/
theorem Resumes.settle (resumes : Resumes l indent outer tokens column after)
    (deep : indent ≤ column) :
    ∃ place : Place, place.column = column ∧
      l.settle = some (atLine indent outer tokens place after) := by
  obtain ⟨place, there, settled⟩ := resumes
  exact ⟨place, there, by rw [settled, closeBlocks_of_le deep]⟩

/-- A place where a key may have begun, but none did, is left behind. -/
def Idle (candidate : Option Candidate) (line : Nat) : Prop :=
  ∀ c ∈ candidate, c.needed = false ∧ c.place.line < line

theorem renew_of_idle {candidate : Option Candidate} (idle : Idle candidate place.line) :
    renew place candidate = some none := by
  cases candidate with
  | none => rfl
  | some c =>
    obtain ⟨free, before⟩ := idle c rfl
    simp [renew, before, free]

/-- A scalar that ended with its line leaves the next line to be read. -/
theorem resumes_of_line (block : l.suspended = []) (allowed : l.keyAllowed = true)
    (starts : ∀ c ∈ l.rest.head?, Visible c) (idle : Idle l.candidate l.place.line) :
    Resumes l l.indent l.outer l.tokens l.place.column l.rest := by
  refine ⟨l.place, rfl, ?_⟩
  rw [settle_eq block (spacing_visible false starts) (renew_of_idle idle), allowed]
  simp only [atLine, block]

/-- The end of a line leaves the next line to be read. -/
theorem resumes_of_newline (block : l.suspended = []) (ends : l.rest = '\n' :: next)
    (opens : Opens column next after) (idle : Idle l.candidate (l.place.line + 1)) :
    Resumes l l.indent l.outer l.tokens column after := by
  have spaced : spacing false l.rest l.place l.keyAllowed false =
      (after, l.place.newline.through (spaces column), true) := by
    rw [ends, spacing, if_pos (by decide), opens.split, spacing_spaces,
      spacing_visible false opens.starts]
    simp
  have there : (l.place.newline.through (spaces column)).column = column := by
    simp [Place.newline]
  refine ⟨l.place.newline.through (spaces column), there, ?_⟩
  rw [settle_eq block spaced (renew_of_idle (by simpa [Place.newline] using idle)), there]
  simp only [atLine, block]

/-! ## Entries -/

/-- A lexer is about to read the key or the value of an entry at an indentation, on the line on
which it is, after tokens and before a rest.  No flow collection is open, and no key has begun. -/
structure Ready (l : Lexer) (level : Nat) (outer : List Int) (tokens : List Token)
    (rest : List Char) : Prop where
  indent : l.indent = level
  outer : l.outer = outer
  tokens : l.tokens = tokens
  rest : l.rest = rest
  block : l.suspended = []
  free : l.candidate = none
  inside : level < l.place.column

/-- After a space, what follows on the line is settled at. -/
theorem Ready.settle {level : Nat} (ready : Ready l level outer tokens (' ' :: after))
    (starts : ∀ c ∈ after.head?, Visible c) :
    ∃ m, l.settle = some m ∧ Ready m level outer tokens after := by
  have spaced : spacing false l.rest l.place l.keyAllowed false =
      (after, l.place.past ' ', l.keyAllowed) := by
    rw [ready.rest, spacing, if_neg (by decide), if_neg (by simp), if_pos (.inl rfl),
      spacing_visible false starts]
  have moved : level < (l.place.past ' ').column := Nat.lt_succ_of_lt ready.inside
  have renewed : renew (l.place.past ' ') l.candidate = some none := by
    rw [ready.free]
    rfl
  rw [settle_eq ready.block spaced renewed,
    closeBlocks_of_le (by simp only [ready.indent]; omega)]
  exact ⟨_, rfl, ready.indent, ready.outer, ready.tokens, rfl, ready.block, rfl, moved⟩

/-! ## The beginning of a scalar -/

/-- A text without marks does not begin as a mark that separates documents, whatever follows it
on the line. -/
theorem atDocumentMark_append (clear : startsWithMark text = false)
    (follow : ∀ c ∈ rest.head?, c ≠ '-' ∧ c ≠ '.') (held : text ≠ []) :
    atDocumentMark (text ++ rest) = false := by
  have others : ∀ mark : Char, mark = '-' ∨ mark = '.' →
      ∀ more, text ++ rest ≠ mark :: mark :: mark :: more := by
    intro mark which more same
    have marks : ∀ c ∈ rest.head?, c ≠ mark := by
      intro c mem
      rcases which with rfl | rfl
      · exact (follow c mem).1
      · exact (follow c mem).2
    match text, held with
    | [a], _ =>
      rw [List.cons_append, List.nil_append] at same
      exact marks mark (by simp [(List.cons.inj same).2]) rfl
    | [a, b], _ =>
      simp only [List.cons_append, List.nil_append, List.cons.injEq] at same
      exact marks mark (by simp [same.2.2]) rfl
    | a :: b :: c :: text, _ =>
      simp only [List.cons_append, List.cons.injEq] at same
      obtain ⟨rfl, rfl, rfl, -⟩ := same
      rcases which with rfl | rfl <;> simp [startsWithMark] at clear
  unfold atDocumentMark
  split
  · next more same => exact absurd same (others '-' (.inl rfl) more)
  · next more same => exact absurd same (others '.' (.inr rfl) more)
  · rfl

/-- A text that can be written without quotes begins a plain scalar. -/
theorem startsPlain_append (allows : allowsPlain (c :: text) = true) (rest : List Char) :
    startsPlain false c (text ++ rest) = true := by
  have solid := Scalar.isSpacing_head allows
  obtain ⟨-, -, -, clear, -⟩ := Scalar.of_allowsPlain allows
  obtain ⟨notIndicator, mark⟩ := Scalar.of_startsWithMark clear
  unfold startsPlain
  split
  · cases text with
    | nil => simp [endsBefore] at mark
    | cons d text =>
      have notBlank := mark (by simp)
      simp only [endsBefore, Bool.or_eq_false_iff] at notBlank
      simp [notBlank.1]
  · simp [Scalar.endsWord_append (mark (by simp)) rest]
  · simp [Scalar.endsWord_append (mark (by simp)) rest]
  · simp only [isIndicator, String.reduceToList, List.contains_eq_mem, List.mem_cons,
      List.not_mem_nil, or_false, decide_eq_false_iff_not, not_or] at notIndicator
    simp [solid, notIndicator]

theorem read_plain (allows : allowsPlain text = true) (held : text ≠ [])
    (follow : ∀ c ∈ rest.head?, c ≠ '-' ∧ c ≠ '.') (written : m.rest = text ++ rest)
    (block : m.suspended = []) : m.read = m.readPlain := by
  obtain ⟨c, text, rfl⟩ := List.exists_cons_of_ne_nil held
  obtain ⟨-, -, -, clear, -⟩ := Scalar.of_allowsPlain allows
  have notMark := atDocumentMark_append clear follow held
  have starts := startsPlain_append allows rest
  obtain ⟨notIndicator, mark⟩ := Scalar.of_startsWithMark clear
  have noEnd : (c = '?' ∨ c = ':' ∨ c = '-') → endsWord (text ++ rest) = false :=
    fun which => Scalar.endsWord_append (mark which) rest
  have flow : m.inFlow = false := by simp [inFlow, block]
  simp only [isIndicator, String.reduceToList, List.contains_eq_mem, List.mem_cons,
    List.not_mem_nil, or_false, decide_eq_false_iff_not, not_or] at notIndicator
  rw [List.cons_append] at written notMark
  simp only [read, written, flow]
  rw [if_neg (by simp [notIndicator]), if_neg (by simp [notMark])]
  simp only [notIndicator, if_false, false_and, starts, if_true]
  rw [if_neg, if_neg, if_neg]
  · rintro ⟨rfl, flow | ends⟩
    · cases flow
    · simp [noEnd] at ends
  · rintro ⟨rfl, flow | ends⟩
    · cases flow
    · simp [noEnd] at ends
  · rintro ⟨rfl, ends⟩
    simp [noEnd] at ends

theorem read_single (written : m.rest = '\'' :: rest) : m.read = m.readQuoted .single := by
  simp [read, written, atDocumentMark]

theorem read_double (written : m.rest = '"' :: rest) : m.read = m.readQuoted .double := by
  simp [read, written, atDocumentMark]

theorem read_literal (written : m.rest = '|' :: rest) (block : m.suspended = []) :
    m.read = m.readBlockScalar .literal := by
  have flow : m.inFlow = false := by simp [inFlow, block]
  simp [read, written, atDocumentMark, flow]

theorem read_query (written : m.rest = '?' :: rest) (ends : endsWord rest = true) :
    m.read = m.readKey := by
  simp [read, written, atDocumentMark, ends]

theorem read_colon (written : m.rest = ':' :: rest) (ends : endsWord rest = true) :
    m.read = m.readValue := by
  simp [read, written, atDocumentMark, ends]

/-! ## Scalars -/

/-- The key that may have begun with the next scalar. -/
def marked (m : Lexer) : Option Candidate :=
  if m.keyAllowed then some ⟨m.indent == m.place.column, m.tokens.length, m.place⟩ else none

theorem markCandidate_eq (block : m.suspended = []) (free : m.candidate = none) :
    m.markCandidate = some { m with candidate := m.marked } := by
  unfold markCandidate marked
  split
  · simp [dropCandidate, free, inFlow, block]
  · simp [← free]

/-- A scalar inside an entry is no key. -/
theorem idle_marked {line : Nat} (inside : m.indent < m.place.column)
    (before : m.place.line < line) : Idle m.marked line := by
  intro c mem
  unfold marked at mem
  split at mem
  · cases mem
    exact ⟨by simp; omega, before⟩
  · cases mem

theorem readPlain_eq {read : Scalar.Read} (block : m.suspended = []) (free : m.candidate = none)
    (result : Scalar.plain false (m.indent + 1) m.rest m.place .none [] = some read) :
    m.readPlain = some (({ m with candidate := m.marked }.allowKey read.lineEnded).addScalar
      .plain read) := by
  have flow : m.inFlow = false := by simp [inFlow, block]
  rw [← flow] at result
  simp only [readPlain, markCandidate_eq block free, Option.bind_eq_bind, Option.bind_some]
  rw [show ({ m with candidate := m.marked } : Lexer).inFlow = m.inFlow from rfl, result]
  rfl

/-- A scalar between single quotes is read up to its closing quote. -/
theorem read_singleQuoted {count : Nat} (flat : '\n' ∉ text) (allows : allowsSingle text = true)
    (deep : 0 < count) (written : m.rest = '\'' :: (singleQuoted count false text ++ rest))
    (alone : rest.head? ≠ some '\'') (block : m.suspended = []) (free : m.candidate = none) :
    m.read = some (({ m with candidate := m.marked }.allowKey false).addScalar .single
      ⟨text, false, m.place.through ('\'' :: singleQuoted count false text), rest⟩) := by
  have way : Styled count text .single ('\'' :: singleQuoted count false text) :=
    .single flat allows
  have own := way.isPrintable (by simp)
  simp only [allowsSingle, hasSpaceBreak, hasBreakSpace, Bool.and_eq_true,
    Bool.not_eq_true'] at allows
  have result : Scalar.single (singleQuoted count false text ++ rest) (m.place.past '\'') .none [] =
      some ⟨text, false, (m.place.past '\'').through (singleQuoted count false text), rest⟩ :=
    Scalar.single_singleQuoted deep own flat allows.1.2 allows.2 (.blanks (by simp))
      (fun _ => Nat.succ_pos _) alone
  rw [read_single written]
  simp only [readQuoted, markCandidate_eq block free, Option.bind_eq_bind, Option.bind_some,
    skip, written, if_true, List.drop_succ_cons, List.drop_zero]
  rw [show m.place.pastAll (List.take 1 ('\'' :: (singleQuoted count false text ++ rest))) =
    m.place.past '\'' from rfl, result]
  rw [Place.through_cons (by decide)]
  rfl

/-- A scalar between double quotes is read up to its closing quote. -/
theorem read_doubleQuoted (written : m.rest = doubleQuoted text ++ rest)
    (block : m.suspended = []) (free : m.candidate = none) :
    m.read = some (({ m with candidate := m.marked }.allowKey false).addScalar .double
      ⟨text, false, m.place.through (doubleQuoted text), rest⟩) := by
  have result : Scalar.double (text.flatMap doubleQuotedChar ++ '"' :: rest) (m.place.past '"')
      none .none [] = some ⟨text, false,
        (m.place.past '"').through (text.flatMap doubleQuotedChar ++ ['"']), rest⟩ :=
    Scalar.double_doubleQuoted (Nat.succ_pos _)
  rw [doubleQuoted] at written ⊢
  rw [read_double written]
  simp only [readQuoted, markCandidate_eq block free, Option.bind_eq_bind, Option.bind_some,
    skip, written, List.cons_append, List.append_assoc, List.nil_append, List.drop_succ_cons,
    List.drop_zero]
  rw [show m.place.pastAll (List.take 1 ('"' :: (text.flatMap doubleQuotedChar ++ '"' :: rest))) =
    m.place.past '"' from rfl, if_neg (by decide), result]
  rw [Place.through_cons (by decide)]
  rfl

/-- A scalar between quotes is read up to its closing quote. -/
theorem read_quoted {count : Nat} (way : style text = .single ∨ style text = .double)
    (deep : 0 < count) (written : m.rest = scalar count text ++ rest)
    (alone : rest.head? ≠ some '\'') (block : m.suspended = []) (free : m.candidate = none) :
    m.read = some (({ m with candidate := m.marked }.allowKey false).addScalar (style text)
      ⟨text, false, m.place.through (scalar count text), rest⟩) := by
  have ways := styled count text
  generalize style text = chosen, scalar count text = line at way ways written ⊢
  cases ways with
  | plain => simp at way
  | single flat allows => exact read_singleQuoted flat allows deep written alone block free
  | double => exact read_doubleQuoted written block free
  | literal => simp at way

/-- A plain scalar is read up to the next line. -/
theorem read_plainLine {level : Nat} (allows : allowsPlain text = true) (held : text ≠ [])
    (ready : Ready m level outer tokens (text ++ '\n' :: next)) (opens : Opens column next after)
    (shallow : column ≤ level) :
    ∃ l', m.read = some l' ∧ l'.rest.length < m.rest.length ∧
      Resumes l' level outer (.scalar .plain (String.ofList text) :: tokens) column after := by
  have inside := ready.inside
  have begins : m.indent = level := ready.indent
  have deep : m.indent + 1 ≤ m.place.column + 1 := by omega
  have result := Scalar.plain_text allows held deep ('\n' :: next)
  rw [Scalar.plain_newline opens (by omega), ← ready.rest] at result
  have later := m.place.line_le_through text
  have place : ((m.place.through text).newline.through (spaces column)).column = column := by
    simp [Place.newline]
  have resumes := resumes_of_line (l := ({ m with candidate := m.marked }.allowKey true).addScalar
      .plain ⟨text.reverse.reverse, true, (m.place.through text).newline.through (spaces column),
        after⟩) ready.block rfl opens.starts
    (idle_marked (by omega) (by simp [addScalar, emit, Place.newline]; omega))
  refine ⟨_, by rw [read_plain allows held (by simp) ready.rest ready.block,
    readPlain_eq ready.block ready.free result], ?_, ?_⟩
  · rw [ready.rest, opens.split]
    simp only [addScalar, emit, List.length_append, List.length_cons]
    omega
  · simpa [addScalar, emit, allowKey, place, ready.indent, ready.outer, ready.tokens] using resumes

/-- A scalar between quotes is read up to the next line. -/
theorem read_quotedLine {level : Nat} (way : style text = .single ∨ style text = .double)
    (ready : Ready m level outer tokens (scalarLine (level + 2) text ++ next))
    (opens : Opens column next after) :
    ∃ l', m.read = some l' ∧ l'.rest.length < m.rest.length ∧
      Resumes l' level outer (.scalar (style text) (String.ofList text) :: tokens) column
        after := by
  have line : scalarLine (level + 2) text = scalar (level + 2) text ++ ['\n'] := by
    rw [scalarLine, if_neg (by rcases way with way | way <;> simp [way])]
  have written : m.rest = scalar (level + 2) text ++ '\n' :: next := by
    rw [ready.rest, line, List.append_assoc]
    rfl
  have inside := ready.inside
  have begins : m.indent = level := ready.indent
  have later := m.place.line_le_through (scalar (level + 2) text)
  have resumes := resumes_of_newline (l := ({ m with candidate := m.marked }.allowKey
      false).addScalar (style text) ⟨text, false, m.place.through (scalar (level + 2) text),
        '\n' :: next⟩) ready.block rfl opens
    (idle_marked (by omega) (by simp only [addScalar, emit]; omega))
  refine ⟨_, read_quoted way (Nat.succ_pos _) written (by simp) ready.block ready.free, ?_, ?_⟩
  · have some : 0 < (scalar (level + 2) text).length := by
      rcases way with way | way <;> simp [scalar, way, doubleQuoted]
    rw [written]
    simp only [addScalar, emit, List.length_append]
    omega
  · simpa [addScalar, emit, allowKey, ready.indent, ready.outer, ready.tokens] using resumes

/-- A literal block is read up to the next line. -/
theorem read_literalLine {level : Nat} (way : style text = .literal)
    (ready : Ready m level outer tokens (scalarLine (level + 2) text ++ next))
    (opens : Opens column next after) (shallow : column ≤ level) :
    ∃ l', m.read = some l' ∧ l'.rest.length < m.rest.length ∧
      Resumes l' level outer (.scalar .literal (String.ofList text) :: tokens) column after := by
  have own := (styled (level + 2) text).isPrintable (by simp [way])
  have held : text ≠ [] := by
    rintro rfl
    exact absurd way (by decide)
  have line : scalarLine (level + 2) text = '|' :: (Scalar.depthSign text ++ (chompingSign text ++
      '\n' :: (indented (level + 2) true text ++ Scalar.lineFeed text))) := by
    rw [scalarLine, Scalar.lineFeed]
    split_ifs with ends last last <;> simp_all [scalar, literal, Scalar.depthSign]
  have written := ready.rest
  simp only [line, List.cons_append, List.append_assoc] at written
  have within : column < level + 2 := by omega
  obtain ⟨result, there⟩ := Scalar.block_literal (p := m.place.past '|') own held opens within
  generalize (m.place.past '|').through _ = place at result there
  have read : m.read = some (({ m with candidate := none }.allowKey true).addScalar .literal
      ⟨text, false, place, after⟩) := by
    rw [read_literal written ready.block]
    simp only [readBlockScalar, dropCandidate, ready.free, Option.bind_eq_bind, Option.bind_some,
      skip, written, ready.indent, List.drop_succ_cons, List.drop_zero]
    rw [show m.place.pastAll (List.take 1 ('|' :: _)) = m.place.past '|' from rfl]
    simp only [reduceCtorEq, decide_false, result]
    simp [addScalar, emit, allowKey]
  have resumes := resumes_of_line (l := ({ m with candidate := none }.allowKey true).addScalar
    .literal ⟨text, false, place, after⟩) ready.block rfl opens.starts
    (by simp [Idle, addScalar, emit, allowKey])
  refine ⟨_, read, ?_, ?_⟩
  · rw [written, opens.split]
    simp only [addScalar, emit, List.length_append, List.length_cons]
    omega
  · simpa [addScalar, emit, allowKey, there, ready.indent, ready.outer, ready.tokens] using resumes

/-- **A scalar is read up to the next line.** -/
theorem read_scalarLine {level : Nat}
    (ready : Ready m level outer tokens (scalarLine (level + 2) text ++ next))
    (opens : Opens column next after) (shallow : column ≤ level) :
    ∃ l', m.read = some l' ∧ l'.rest.length < m.rest.length ∧
      Resumes l' level outer (.scalar (style text) (String.ofList text) :: tokens) column
        after := by
  have ways := styled (level + 2) text
  cases way : style text
  case plain =>
    have line : scalarLine (level + 2) text = text ++ ['\n'] := by
      simp [scalarLine, scalar, way]
    rw [line, List.append_assoc] at ready
    rw [way] at ways
    generalize scalar (level + 2) text = written at ways
    cases ways with
    | plain clear allows =>
      have held : text ≠ [] := by
        rintro rfl
        exact absurd clear (by decide)
      exact read_plainLine allows held ready opens shallow
  case single => rw [← way]; exact read_quotedLine (.inl way) ready opens
  case double => rw [← way]; exact read_quotedLine (.inr way) ready opens
  case literal => exact read_literalLine way ready opens shallow
  case folded => rw [way] at ways; cases ways

end Placement.Yaml.Lexer
