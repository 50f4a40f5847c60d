import Placement.Proofs.Yaml.Lexer

/-!
# The tokens of a written document

Written entries are read one after the other.  An entry leaves the lexer between two lines,
with the tokens of the entry behind it; the block that an entry opens is closed where the next
line is indented less.

## Main definitions

* `Outline.tokens`, `Outline.entryTokens` — the tokens of an outline.
* `Lexer.Enters` — an entry opens its block, or goes on with it.
* `Lexer.betweenBraces`, `Lexer.behindBraces` — the two braces of an empty mapping.

The main statements are `Lexer.Resumes.reaches_entries` and `Token.ofText_entriesAt`.
-/

namespace Placement.Yaml

namespace Outline

mutual

/-- The tokens of an outline. -/
def tokens : Outline → List Token
  | .int value => [.scalar .plain (String.ofList (Text.Decimal.write value))]
  | .text s => [.scalar (style s.toList) s]
  | .mapping [] => [.flowMapping, .flowMappingEnd]
  | .mapping (entry :: entries) =>
    .blockMapping :: (entryTokens (entry :: entries) ++ [.blockEnd])

/-- The tokens of entries. -/
def entryTokens : List (String × Outline) → List Token
  | [] => []
  | (key, value) :: rest =>
    .key :: .scalar (style key.toList) key :: .value :: (value.tokens ++ entryTokens rest)

end

/-- A key and the colon after it, without the spaces before it. -/
def keyBody (level : Nat) (key : String) : List Char :=
  if isSimpleKey key then scalar (level + 2) key.toList ++ [':']
  else '?' :: ' ' :: (scalarLine (level + 2) key.toList ++ (spaces level ++ [':']))

theorem keyLine_eq (level : Nat) (key : String) :
    keyLine level key = spaces level ++ keyBody level key := by
  rw [keyLine, keyBody]
  split <;> rfl

variable {c : Char} {text rest : List Char} {count level : Nat}

/-- A scalar begins with a character that no reading passes over. -/
theorem exists_scalar (count : Nat) (text : List Char) :
    ∃ c more, scalar count text = c :: more ∧ Visible c := by
  have ways := styled count text
  generalize style text = way, scalar count text = written at ways ⊢
  cases ways with
  | plain clear allows =>
    cases text with
    | nil => exact absurd clear (by decide)
    | cons c more => exact ⟨c, more, rfl, Scalar.visible_head allows⟩
  | single => exact ⟨'\'', _, rfl, by decide⟩
  | double => exact ⟨'"', _, rfl, by decide⟩
  | literal => exact ⟨'|', _, rfl, by decide⟩

theorem visible_scalar (count : Nat) (text rest : List Char) :
    ∀ c ∈ (scalar count text ++ rest).head?, Visible c := by
  obtain ⟨c, more, same, visible⟩ := exists_scalar count text
  rw [same]
  simpa using visible

theorem visible_scalarLine (count : Nat) (text rest : List Char) :
    ∀ c ∈ (scalarLine count text ++ rest).head?, Visible c := by
  rw [scalarLine]
  split
  · exact visible_scalar count text rest
  · rw [List.append_assoc]
    exact visible_scalar count text (['\n'] ++ rest)

theorem visible_keyBody (level : Nat) (key : String) (rest : List Char) :
    ∀ c ∈ (keyBody level key ++ rest).head?, Visible c := by
  rw [keyBody]
  split
  · rw [List.append_assoc]
    exact visible_scalar (level + 2) key.toList ([':'] ++ rest)
  · intro c mem
    cases mem
    decide

theorem entriesAt_cons (level : Nat) (key : String) (value : Outline)
    (entries : List (String × Outline)) (rest : List Char) :
    entriesAt level ((key, value) :: entries) ++ rest =
      spaces level ++ (keyBody level key ++ (afterColon level value ++
        (entriesAt level entries ++ rest))) := by
  simp only [entriesAt, keyLine_eq, List.append_assoc]

theorem opens_entriesAt (level : Nat) (key : String) (value : Outline)
    (entries : List (String × Outline)) (rest : List Char) :
    Opens level (entriesAt level ((key, value) :: entries) ++ rest)
      (keyBody level key ++ (afterColon level value ++ (entriesAt level entries ++ rest))) where
  split := entriesAt_cons level key value entries rest
  starts := visible_keyBody level key _

theorem endsWord_afterColon (level : Nat) (value : Outline) (rest : List Char) :
    endsWord (afterColon level value ++ rest) = true := by
  cases value with
  | int => rfl
  | text => rfl
  | mapping entries => cases entries <;> rfl

end Outline

namespace Lexer

open Outline

variable {l l' m : Lexer} {indent : Int} {outer outer' : List Int} {tokens tokens' : List Token}
  {place : Place} {rest after next text : List Char} {column level : Nat} {key : String}

/-! ## Keys -/

/-- An entry at an indentation opens its block, or goes on with the innermost one: from the
blocks and tokens before it to those with which its key is read. -/
inductive Enters (level : Nat) : Int → List Int → List Token → List Int → List Token → Prop
  | again (outer : List Int) (tokens : List Token) : Enters level level outer tokens outer tokens
  | opens {indent : Int} (outer : List Int) (tokens : List Token) (deeper : indent < level) :
    Enters level indent outer tokens (indent :: outer) (.blockMapping :: tokens)

theorem Enters.le (enters : Enters level indent outer tokens outer' tokens') : indent ≤ level := by
  cases enters with
  | again => exact Int.le_refl _
  | opens _ _ deeper => exact Int.le_of_lt deeper

/-- At the beginning of a line the block of its entry is opened. -/
theorem openBlockHere_atLine (enters : Enters level indent outer tokens outer' tokens')
    (there : place.column = level) :
    (atLine indent outer tokens place rest).openBlockHere .blockMapping =
      some (atLine level outer' tokens' place rest) := by
  cases enters with
  | again => simp [openBlockHere, openBlock, atLine, inFlow, there]
  | opens _ _ deeper => simp [openBlockHere, openBlock, atLine, inFlow, emitAt, there, deeper]

/-- A colon after a key that has lines of its own is read. -/
theorem Resumes.steps_colon (resumes : Resumes l level outer tokens level (':' :: rest))
    (ends : endsWord rest = true) :
    ∃ l', Steps l l' ∧ Ready l' level outer (.value :: tokens) rest := by
  obtain ⟨place, there, settled⟩ := resumes.settle (Int.le_refl _)
  have read : (atLine level outer tokens place (':' :: rest)).read =
      some ((((atLine level outer tokens place (':' :: rest)).allowKey true).skip 1).emit
        .value) := by
    rw [read_colon rfl ends, readValue]
    simp only [openBlockHere_atLine (.again outer tokens) there]
    rfl
  refine ⟨_, ⟨_, settled, read, ?_⟩, rfl, rfl, rfl, rfl, rfl, rfl, ?_⟩
  · simp [emit, skip, allowKey, atLine]
  · simp [emit, skip, allowKey, atLine, there]

/-- The question mark before a key that has lines of its own is read. -/
theorem Resumes.steps_query (resumes : Resumes l indent outer tokens level ('?' :: rest))
    (enters : Enters level indent outer tokens outer' tokens') (ends : endsWord rest = true) :
    ∃ l', Steps l l' ∧ Ready l' level outer' (.key :: tokens') rest := by
  obtain ⟨place, there, settled⟩ := resumes.settle enters.le
  have read : (atLine indent outer tokens place ('?' :: rest)).read =
      some ((((atLine level outer' tokens' place ('?' :: rest)).allowKey true).skip 1).emit
        .key) := by
    rw [read_query rfl ends, readKey, openBlockHere_atLine enters there]
    rfl
  refine ⟨_, ⟨_, settled, read, ?_⟩, rfl, rfl, rfl, rfl, rfl, rfl, ?_⟩
  · simp [emit, skip, allowKey, atLine]
  · simp [emit, skip, allowKey, atLine, there]

/-- A lexer at the colon after a key that is written on one line and began at a position. -/
def atColon (indent : Int) (outer : List Int) (tokens : List Token) (key : String)
    (start place : Place) (rest : List Char) : Lexer where
  indent := indent
  outer := outer
  keyAllowed := false
  candidate := some ⟨indent == start.column, tokens.length, start⟩
  tokens := .scalar (style key.toList) key :: tokens
  place := place
  rest := ':' :: rest

theorem flat_of_isSimpleKey (simple : isSimpleKey key = true) :
    key.toList.any breaksLine = false := by
  simp only [isSimpleKey, Bool.and_eq_true, Bool.not_eq_true'] at simple
  exact simple.1

/-- A key that is written on one line is read up to its colon. -/
theorem read_simpleKey (simple : isSimpleKey key = true) (deep : indent ≤ place.column)
    (ends : endsWord rest = true) :
    (atLine indent outer tokens place (scalar (level + 2) key.toList ++ ':' :: rest)).read =
      some (atColon indent outer tokens key place
        (place.through (scalar (level + 2) key.toList)) rest) := by
  have unbroken := Scalar.isBreak_of_flat (flat_of_isSimpleKey simple)
  have ways := styled (level + 2) key.toList
  have written : (atLine indent outer tokens place
      (scalar (level + 2) key.toList ++ ':' :: rest)).rest =
        scalar (level + 2) key.toList ++ ':' :: rest := rfl
  have quoted := fun way => read_quoted way (Nat.succ_pos _) written (by simp) rfl rfl
  unfold atColon
  generalize style key.toList = way, scalar (level + 2) key.toList = line at ways written quoted ⊢
  cases ways with
  | plain clear allows =>
    have held : key.toList ≠ [] := by
      intro none
      rw [none] at clear
      exact absurd clear (by decide)
    have below : indent + 1 ≤ place.column + 1 := by omega
    have result := Scalar.plain_text allows held below (':' :: rest)
    rw [Scalar.plain_colon ends] at result
    rw [read_plain allows held (by simp) written rfl,
      readPlain_eq (m := atLine indent outer tokens place (key.toList ++ ':' :: rest)) rfl rfl
        result]
    simp [atLine, addScalar, emit, allowKey, marked]
  | single =>
    rw [quoted (.inl rfl)]
    simp [atLine, addScalar, emit, allowKey, marked]
  | double =>
    rw [quoted (.inr rfl)]
    simp [atLine, addScalar, emit, allowKey, marked]
  | literal tall => exact absurd (unbroken '\n' tall) (by decide)

/-- The colon still belongs to a key that is written on one line. -/
theorem settle_atColon (simple : isSimpleKey key = true) (deep : indent ≤ place.column) :
    (atColon indent outer tokens key place
        (place.through (scalar (level + 2) key.toList)) rest).settle =
      some (atColon indent outer tokens key place
        (place.through (scalar (level + 2) key.toList)) rest) := by
  have flat := flat_of_isSimpleKey simple
  have short := Scalar.utf8Len_scalar (level + 2) flat
  have size : key.utf8ByteSize = String.utf8Len key.toList := by
    rw [← String.utf8ByteSize_ofList, String.ofList_toList]
  have limit : key.utf8ByteSize ≤ 128 := by
    simp only [isSimpleKey, Bool.and_eq_true, decide_eq_true_eq] at simple
    exact simple.2
  rw [Place.through_flat (fun c mem => Scalar.isBreak_of_mem_scalar flat mem)]
  have colon : ∀ c ∈ (':' :: rest).head?, Visible c := by
    intro c mem
    cases mem
    decide
  -- The key takes at most four times its bytes, which is less than a key may take.
  have renewed : renew (place.pastAll (scalar (level + 2) key.toList))
      (some ⟨indent == place.column, tokens.length, place⟩) =
        some (some ⟨indent == place.column, tokens.length, place⟩) := by
    simp only [renew, Place.line_pastAll, Place.index_pastAll, Lexer.keyLimit]
    rw [if_neg (by omega)]
  unfold atColon
  rw [settle_eq rfl (spacing_visible false colon) renewed,
    closeBlocks_of_le (by simp only [Place.column_pastAll]; omega)]

/-- The colon tells that the scalar before it is a key. -/
theorem read_atColon {start : Place} (enters : Enters level indent outer tokens outer' tokens')
    (there : start.column = level) (ends : endsWord rest = true) :
    (atColon indent outer tokens key start place rest).read =
      some { indent := level, outer := outer', keyAllowed := false,
             tokens := .value :: .scalar (style key.toList) key :: .key :: tokens',
             place := place.past ':', rest := rest } := by
  rw [read_colon rfl ends, readValue]
  cases enters with
  | again => simp [atColon, emitAt, openBlock, inFlow, skip, emit, there, Place.pastAll]
  | opens _ _ deeper =>
    have later : tokens.length + 1 + 1 - tokens.length = 2 := by omega
    simp [atColon, emitAt, openBlock, inFlow, skip, emit, there, deeper, Place.pastAll, later]

/-- A key that is written on one line, and the colon after it, are read. -/
theorem Resumes.reaches_simpleKey (simple : isSimpleKey key = true)
    (resumes : Resumes l indent outer tokens level (scalar (level + 2) key.toList ++ ':' :: rest))
    (enters : Enters level indent outer tokens outer' tokens') (ends : endsWord rest = true) :
    ∃ l', Reaches l l' ∧
      Ready l' level outer' (.value :: .scalar (style key.toList) key :: .key :: tokens') rest := by
  obtain ⟨place, there, settled⟩ := resumes.settle enters.le
  have deep : indent ≤ place.column := there ▸ enters.le
  obtain ⟨c, more, begins, -⟩ := exists_scalar (level + 2) key.toList
  have moved : (place.through (scalar (level + 2) key.toList)).column =
      level + (scalar (level + 2) key.toList).length := by
    rw [Place.through_flat fun c mem =>
        Scalar.isBreak_of_mem_scalar (flat_of_isSimpleKey simple) mem,
      Place.column_pastAll, there]
  have first : Steps l (atColon indent outer tokens key place
      (place.through (scalar (level + 2) key.toList)) rest) := by
    refine ⟨_, settled, read_simpleKey simple deep ends, ?_⟩
    simp only [atColon, atLine, begins, List.length_append, List.length_cons]
    omega
  refine ⟨_, .tail (.single first)
    ⟨_, settle_atColon simple deep, read_atColon enters there ends, Nat.lt_succ_self _⟩,
    rfl, rfl, rfl, rfl, rfl, rfl, ?_⟩
  simp only [Place.past, moved]
  omega

/-- **A key and its colon are read**, whichever way the key is written. -/
theorem Resumes.reaches_key
    (resumes : Resumes l indent outer tokens level (keyBody level key ++ rest))
    (enters : Enters level indent outer tokens outer' tokens') (ends : endsWord rest = true) :
    ∃ l', Reaches l l' ∧
      Ready l' level outer' (.value :: .scalar (style key.toList) key :: .key :: tokens') rest := by
  unfold keyBody at resumes
  split at resumes
  · next simple =>
    rw [List.append_assoc] at resumes
    exact resumes.reaches_simpleKey simple enters ends
  · simp only [List.cons_append, List.append_assoc, List.nil_append] at resumes
    obtain ⟨l₁, query, ready⟩ := resumes.steps_query enters rfl
    obtain ⟨m, settled, inside⟩ := ready.settle (visible_scalarLine _ _ _)
    have opens : Opens level (spaces level ++ ':' :: rest) (':' :: rest) :=
      ⟨rfl, by intro c mem; cases mem; decide⟩
    obtain ⟨l₂, read, shorter, next⟩ := read_scalarLine inside opens (Nat.le_refl _)
    obtain ⟨l₃, colon, done⟩ := next.steps_colon ends
    rw [String.ofList_toList] at done
    exact ⟨l₃, .tail (.tail (.single query) ⟨m, settled, read, shorter⟩) colon, done⟩

/-! ## Values -/

/-- Between the braces of an empty mapping.  The mapping could still be a key, which is
remembered until its closing brace. -/
def betweenBraces (m : Lexer) (next : List Char) : Lexer :=
  { m with
    keyAllowed := true, candidate := none, suspended := [m.marked],
    tokens := .flowMapping :: m.tokens, place := m.place.past '\x7b',
    rest := '\x7d' :: '\n' :: next }

/-- Behind the braces of an empty mapping. -/
def behindBraces (m : Lexer) (next : List Char) : Lexer :=
  { m with
    keyAllowed := false, candidate := m.marked, suspended := [],
    tokens := .flowMappingEnd :: .flowMapping :: m.tokens,
    place := (m.place.past '\x7b').past '\x7d', rest := '\n' :: next }

theorem read_openBrace (block : m.suspended = []) (free : m.candidate = none)
    (written : m.rest = '\x7b' :: '\x7d' :: '\n' :: next) :
    m.read = some (m.betweenBraces next) := by
  simp only [read, written, atDocumentMark, openFlow, markCandidate_eq block free]
  simp [betweenBraces, block, allowKey, skip, emit, Place.pastAll]

/-- A key that began with the opening brace could still be one. -/
theorem renew_marked (m : Lexer) :
    renew (m.place.past '\x7b') m.marked = some m.marked := by
  unfold marked
  split
  · have byte : ('\x7b' : Char).utf8Size = 1 := by decide
    simp [renew, Place.past, Lexer.keyLimit, byte]
  · rfl

theorem settle_betweenBraces (m : Lexer) (next : List Char) :
    (m.betweenBraces next).settle = some (m.betweenBraces next) := by
  have close : ∀ c ∈ ('\x7d' :: '\n' :: next).head?, Visible c := by
    intro c mem
    cases mem
    decide
  simp only [Lexer.settle, betweenBraces, inFlow, List.isEmpty_cons, Bool.not_false,
    spacing_visible true close, renewCandidates, List.mapM_cons, List.mapM_nil, renew_marked]
  rfl

theorem read_closeBrace (m : Lexer) (next : List Char) :
    (m.betweenBraces next).read = some (m.behindBraces next) := by
  simp [betweenBraces, behindBraces, read, atDocumentMark, closeFlow, dropCandidate, allowKey,
    skip, emit, Place.pastAll]

/-- An empty mapping is read up to the next line. -/
theorem Ready.reaches_empty
    (ready : Ready l level outer tokens (' ' :: '\x7b' :: '\x7d' :: '\n' :: next))
    (opens : Opens column next after) :
    ∃ l', Reaches l l' ∧
      Resumes l' level outer (.flowMappingEnd :: .flowMapping :: tokens) column after := by
  have brace : ∀ c ∈ ('\x7b' :: '\x7d' :: '\n' :: next).head?, Visible c := by
    intro c mem
    cases mem
    decide
  obtain ⟨m, settled, inside⟩ := ready.settle brace
  have begins : m.indent < m.place.column := by
    have deeper := inside.inside
    rw [inside.indent]
    omega
  have resumes := resumes_of_newline (l := m.behindBraces next) rfl rfl opens
    (idle_marked begins (by simp [behindBraces, Place.past]))
  refine ⟨m.behindBraces next, .tail (.single ⟨m, settled,
    read_openBrace inside.block inside.free inside.rest, ?_⟩)
      ⟨_, settle_betweenBraces m next, read_closeBrace m next, ?_⟩, ?_⟩
  · simp [betweenBraces, inside.rest]
  · simp [betweenBraces, behindBraces]
  · simpa [behindBraces, inside.indent, inside.outer, inside.tokens] using resumes

/-- A value is read up to the next line, wherever it stands. -/
def Reads (value : Outline) : Prop :=
  ∀ {l : Lexer} {level : Nat} {outer : List Int} {tokens : List Token} {next after : List Char}
    {column : Nat}, Ready l level outer tokens (afterColon level value ++ next) →
    Opens column next after → column ≤ level →
      ∃ l', Reaches l l' ∧ Resumes l' level outer (value.tokens.reverse ++ tokens) column after

theorem reads_int (n : Int) : Reads (.int n) := by
  intro l level outer tokens next after column ready opens shallow
  simp only [afterColon, List.cons_append, List.append_assoc, List.nil_append] at ready
  obtain ⟨allows, held⟩ := allowsPlain_write n
  have starts : ∀ c ∈ (Text.Decimal.write n ++ '\n' :: next).head?, Visible c := by
    obtain ⟨c, more, same⟩ := List.exists_cons_of_ne_nil held
    rw [same] at allows ⊢
    intro d mem
    cases mem
    exact Scalar.visible_head allows
  obtain ⟨m, settled, inside⟩ := ready.settle starts
  obtain ⟨l', read, shorter, resumes⟩ := read_plainLine allows held inside opens shallow
  exact ⟨l', .single ⟨m, settled, read, shorter⟩, resumes⟩

theorem reads_text (s : String) : Reads (.text s) := by
  intro l level outer tokens next after column ready opens shallow
  simp only [afterColon, List.cons_append] at ready
  obtain ⟨m, settled, inside⟩ := ready.settle (visible_scalarLine _ _ _)
  obtain ⟨l', read, shorter, resumes⟩ := read_scalarLine inside opens shallow
  rw [String.ofList_toList] at resumes
  exact ⟨l', .single ⟨m, settled, read, shorter⟩, resumes⟩

theorem reads_empty : Reads (.mapping []) := by
  intro l level outer tokens next after column ready opens shallow
  simp only [afterColon, String.reduceToList, List.cons_append, List.nil_append] at ready
  exact ready.reaches_empty opens

/-- An entry is read up to the next line, if its value is. -/
theorem Resumes.reaches_entry {value : Outline} (reads : Reads value)
    (resumes : Resumes l indent outer tokens level
      (keyBody level key ++ (afterColon level value ++ next)))
    (enters : Enters level indent outer tokens outer' tokens') (opens : Opens column next after)
    (shallow : column ≤ level) :
    ∃ l', Reaches l l' ∧
      Resumes l' level outer' ((entryTokens [(key, value)]).reverse ++ tokens') column after := by
  obtain ⟨l₁, first, ready⟩ := resumes.reaches_key enters (endsWord_afterColon level value next)
  obtain ⟨l₂, second, done⟩ := reads ready opens shallow
  refine ⟨l₂, first.trans second, ?_⟩
  simpa [entryTokens] using done

/-- Entries at an indentation are read up to the next line, where the first of them, if there
is one, is the next line. -/
def ReadsAll (entries : List (String × Outline)) : Prop :=
  ∀ {l : Lexer} {level : Nat} {outer : List Int} {tokens : List Token}
    {next after begins : List Char} {column start : Nat},
    Resumes l level outer tokens start begins →
    Opens start (entriesAt level entries ++ next) begins →
    Opens column next after → column ≤ level →
      ∃ l', Reaches l l' ∧
        Resumes l' level outer ((entryTokens entries).reverse ++ tokens) column after

theorem readsAll_nil : ReadsAll [] := by
  intro l level outer tokens next after begins column start resumes opening opens shallow
  obtain ⟨rfl, rfl⟩ := opening.unique opens
  exact ⟨l, .refl, resumes⟩

/-- What comes after an entry begins a line that is not indented more. -/
theorem exists_opens (entries : List (String × Outline)) (opens : Opens column next after)
    (shallow : column ≤ level) :
    ∃ start begins, Opens start (entriesAt level entries ++ next) begins ∧ start ≤ level := by
  cases entries with
  | nil => exact ⟨column, after, by simpa [entriesAt] using opens, shallow⟩
  | cons entry entries =>
    exact ⟨level, _, opens_entriesAt level entry.1 entry.2 entries next, Nat.le_refl _⟩

theorem entryTokens_cons (entry : String × Outline) (entries : List (String × Outline)) :
    entryTokens (entry :: entries) = entryTokens [entry] ++ entryTokens entries := by
  simp [entryTokens]

/-- Entries are read after the first of them, which may open their block. -/
theorem Resumes.reaches_entries {value : Outline} {entries : List (String × Outline)}
    (first : Reads value) (others : ReadsAll entries)
    (resumes : Resumes l indent outer tokens level (keyBody level key ++
      (afterColon level value ++ (entriesAt level entries ++ next))))
    (enters : Enters level indent outer tokens outer' tokens') (opens : Opens column next after)
    (shallow : column ≤ level) :
    ∃ l', Reaches l l' ∧
      Resumes l' level outer' ((entryTokens ((key, value) :: entries)).reverse ++ tokens')
        column after := by
  obtain ⟨start, begins, opening, notDeep⟩ := exists_opens entries opens shallow
  obtain ⟨l₁, reached, between⟩ := resumes.reaches_entry first enters opening notDeep
  obtain ⟨l₂, reached', done⟩ := others between opening opens shallow
  rw [entryTokens_cons, List.reverse_append, List.append_assoc]
  exact ⟨l₂, reached.trans reached', done⟩

theorem readsAll_cons {value : Outline} {entries : List (String × Outline)} (first : Reads value)
    (others : ReadsAll entries) : ReadsAll ((key, value) :: entries) := by
  intro l level outer tokens next after begins column start resumes opening opens shallow
  obtain ⟨rfl, rfl⟩ := opening.unique (opens_entriesAt level key value entries next)
  exact resumes.reaches_entries first others (.again outer tokens) opens shallow

/-- A mapping is read with the block that its entries open, which the next line closes. -/
theorem reads_mapping {value : Outline} {entries : List (String × Outline)} (first : Reads value)
    (others : ReadsAll entries) : Reads (.mapping ((key, value) :: entries)) := by
  intro l level outer tokens next after column ready opens shallow
  have resumes := resumes_of_newline ready.block ready.rest
    (opens_entriesAt (level + 2) key value entries next) (by simp [Idle, ready.free])
  rw [ready.indent, ready.outer, ready.tokens] at resumes
  obtain ⟨l', reached, done⟩ := resumes.reaches_entries first others
    (.opens outer tokens (by omega)) opens (by omega)
  have closed := done.close (by omega)
  exact ⟨l', reached, by simpa [Outline.tokens] using closed⟩

mutual

/-- **Every value is read up to the next line.** -/
theorem reads : ∀ value : Outline, Reads value
  | .int n => reads_int n
  | .text s => reads_text s
  | .mapping [] => reads_empty
  | .mapping ((_, value) :: entries) => reads_mapping (reads value) (readsAll entries)

/-- All entries are read up to the next line. -/
theorem readsAll : ∀ entries : List (String × Outline), ReadsAll entries
  | [] => readsAll_nil
  | (_, value) :: entries => readsAll_cons (reads value) (readsAll entries)

end

end Lexer

open Outline Lexer in
/-- **The tokens of a written document are those of its outline.** -/
theorem Token.ofText_entriesAt (key : String) (value : Outline)
    (entries : List (String × Outline)) :
    Token.ofText (entriesAt 0 ((key, value) :: entries)) =
      some ((Outline.mapping ((key, value) :: entries)).tokens ++ [.streamEnd]) := by
  have opens := opens_entriesAt 0 key value entries []
  rw [List.append_nil] at opens
  have start : Resumes { rest := entriesAt 0 ((key, value) :: entries) } (-1) [] [] 0
      (keyBody 0 key ++ (afterColon 0 value ++ (entriesAt 0 entries ++ []))) := by
    have same := opens.split
    rw [spaces, List.replicate_zero, List.nil_append] at same
    rw [same]
    exact resumes_of_line (l := { rest := _ }) rfl rfl opens.starts (by simp [Idle])
  obtain ⟨l', reached, done⟩ := start.reaches_entries (reads value) (readsAll entries)
    (.opens [] [] (by decide)) ⟨rfl, by simp⟩ (Nat.le_refl 0)
  obtain ⟨place, there, settled⟩ := done.settle (Int.le_refl _)
  obtain ⟨fuel, enough, same⟩ := readAll_of_reaches reached (Nat.lt_succ_self _)
  rw [Token.ofText, same]
  cases fuel with
  | zero => omega
  | succ fuel =>
    rw [readAll, settled]
    simp [atLine, endDocument, closeBlocks, inFlow, unwind, dropCandidate, allowKey, Outline.tokens]

end Placement.Yaml
