import Placement.Proofs.Yaml.Entry

/-!
# Written documents read back

The nodes of a written document are those of its outline: each scalar keeps its text and the
way in which it was written, and has neither a tag nor an anchor.

## Main definitions

* `Outline.node` — the node of an outline.

The main statement is `Document.ofText_render`.
-/

namespace Placement.Yaml

namespace Outline

mutual

/-- The node of an outline. -/
def node : Outline → Node
  | .int value => .scalar none .plain (String.ofList (Text.Decimal.write value))
  | .text s => .scalar none (style s.toList) s
  | .mapping entries => .mapping (nodes entries)

/-- The nodes of entries. -/
def nodes : List (String × Outline) → List (Node × Node)
  | [] => []
  | (key, value) :: rest => (.scalar none (style key.toList) key, value.node) :: nodes rest

end

theorem nodes_eq_map (entries : List (String × Outline)) :
    nodes entries =
      entries.map fun entry => (.scalar none (style entry.1.toList) entry.1, entry.2.node) := by
  induction entries with
  | nil => rfl
  | cons entry entries ih => rw [nodes, ih, List.map_cons]

end Outline

namespace Node

open Outline

variable {handles : TagHandles} {fuel : Nat} {block level : Bool} {style : Style} {text : String}
  {rest : List Token} {names : List (String × Nat)}

/-! ## Nodes -/

/-- A scalar is read as a node. -/
theorem ofTokens_scalar (enough : 2 ≤ fuel) :
    ofTokens handles fuel block level ⟨.scalar style text :: rest, names⟩ =
      some (.scalar none style text, ⟨rest, names⟩) := by
  obtain ⟨fuel, rfl⟩ := Nat.exists_eq_add_of_le' enough
  simp [ofTokens, properties, content]

/-- An empty mapping is read as a node. -/
theorem ofTokens_empty (enough : 3 ≤ fuel) :
    ofTokens handles fuel block level ⟨.flowMapping :: .flowMappingEnd :: rest, names⟩ =
      some (.mapping [], ⟨rest, names⟩) := by
  obtain ⟨fuel, rfl⟩ := Nat.exists_eq_add_of_le' enough
  simp [ofTokens, properties, content, flowEntries, Feed.advance]

/-- A block mapping is read as a node, if its entries are read. -/
theorem ofTokens_mapping {tokens : List Token} {entries : List (Node × Node)}
    (read : blockEntries handles fuel ⟨tokens, names⟩ = some (entries, ⟨rest, names⟩)) :
    ofTokens handles (fuel + 2) true level ⟨.blockMapping :: tokens, names⟩ =
      some (.mapping entries, ⟨rest, names⟩) := by
  simp [ofTokens, properties, content, read]

/-- The first token of an outline does not end an entry. -/
theorem endsBlockEntry_tokens (outline : Outline) (rest : List Token) :
    endsBlockEntry (outline.tokens ++ rest).head? = false := by
  cases outline with
  | int => rfl
  | text => rfl
  | mapping entries => cases entries <;> rfl

/-- An entry is read, if its value and the entries after it are. -/
theorem blockEntries_cons {key : String} {tokens more : List Token} {value : Node}
    {entries : List (Node × Node)} (enough : 2 ≤ fuel)
    (begins : endsBlockEntry tokens.head? = false)
    (read : ofTokens handles fuel true true ⟨tokens, names⟩ = some (value, ⟨more, names⟩))
    (others : blockEntries handles (fuel + 1) ⟨more, names⟩ = some (entries, ⟨rest, names⟩)) :
    blockEntries handles (fuel + 2) ⟨.key :: .scalar style key :: .value :: tokens, names⟩ =
      some ((.scalar none style key, value) :: entries, ⟨rest, names⟩) := by
  have first : blockPart handles (fuel + 1) ⟨.scalar style key :: .value :: tokens, names⟩ =
      some (.scalar none style key, ⟨.value :: tokens, names⟩) := by
    rw [blockPart, if_neg (by simp [endsBlockEntry]), ofTokens_scalar enough]
  have second : blockPart handles (fuel + 1) ⟨tokens, names⟩ = some (value, ⟨more, names⟩) := by
    rw [blockPart, if_neg (by simp [begins]), read]
  rw [blockEntries]
  simp [Feed.advance, first, second, others]

mutual

/-- **The tokens of an outline are read as its node**, whatever follows them. -/
theorem ofTokens_tokens : ∀ (outline : Outline) (fuel : Nat) (level : Bool) (rest : List Token)
    (names : List (String × Nat)), 2 * outline.tokens.length ≤ fuel →
    ofTokens handles fuel true level ⟨outline.tokens ++ rest, names⟩ =
      some (outline.node, ⟨rest, names⟩)
  | .int n, fuel, level, rest, names, enough => ofTokens_scalar enough
  | .text s, fuel, level, rest, names, enough => ofTokens_scalar enough
  | .mapping [], fuel, level, rest, names, enough => ofTokens_empty (Nat.le_of_succ_le enough)
  | .mapping (entry :: entries), fuel, level, rest, names, enough => by
    simp only [Outline.tokens, List.length_cons, List.length_append, List.length_nil] at enough
    obtain ⟨fuel, rfl⟩ := Nat.exists_eq_add_of_le' (show 2 ≤ fuel by omega)
    have read := blockEntries_entryTokens (entry :: entries) fuel rest names (by omega)
    rw [Outline.tokens, List.cons_append, List.append_assoc]
    exact ofTokens_mapping read

/-- The tokens of entries are read as their nodes, up to the end of their block. -/
theorem blockEntries_entryTokens : ∀ (entries : List (String × Outline)) (fuel : Nat)
    (rest : List Token) (names : List (String × Nat)), 2 * (entryTokens entries).length < fuel →
    blockEntries handles fuel ⟨entryTokens entries ++ .blockEnd :: rest, names⟩ =
      some (nodes entries, ⟨rest, names⟩)
  | [], fuel, rest, names, enough => by
    obtain ⟨fuel, rfl⟩ := Nat.exists_eq_add_of_le' (show 1 ≤ fuel by omega)
    simp [entryTokens, blockEntries, nodes, Feed.advance]
  | (key, value) :: entries, fuel, rest, names, enough => by
    simp only [entryTokens, List.length_cons, List.length_append] at enough
    obtain ⟨fuel, rfl⟩ := Nat.exists_eq_add_of_le' (show 2 ≤ fuel by omega)
    have read := ofTokens_tokens value fuel true (entryTokens entries ++ .blockEnd :: rest) names
      (by omega)
    have others := blockEntries_entryTokens entries (fuel + 1) rest names (by omega)
    simp only [entryTokens, List.cons_append, List.append_assoc]
    exact blockEntries_cons (by omega) (endsBlockEntry_tokens value _) read others

end

end Node

/-! ## Documents -/

namespace Document

open Outline

/-- A document is read from the tokens of a mapping in blocks. -/
theorem ofTokens_tokens (entry : String × Outline) (entries : List (String × Outline)) :
    ofTokens ((Outline.mapping (entry :: entries)).tokens ++ [.streamEnd]) =
      some (ofNode (Outline.mapping (entry :: entries)).node) := by
  have read : Node.ofTokens ([] ++ builtinHandles)
      (2 * ((Outline.mapping (entry :: entries)).tokens ++ [Token.streamEnd]).length + 4) true false
        ⟨(Outline.mapping (entry :: entries)).tokens ++ [.streamEnd], []⟩ =
      some ((Outline.mapping (entry :: entries)).node, ⟨[.streamEnd], []⟩) :=
    Node.ofTokens_tokens _ _ _ _ _ (by rw [List.length_append]; omega)
  have only : first ((Outline.mapping (entry :: entries)).tokens ++ [.streamEnd]) =
      some ((Outline.mapping (entry :: entries)).node, [.streamEnd]) := by
    rw [Outline.tokens, List.cons_append] at read ⊢
    rw [first]
    · rw [node, read]
      rfl
    all_goals simp
  rw [ofTokens, only]
  rfl

/-- **A written document reads as its outline.** -/
theorem ofText_render (entry : String × Outline) (entries : List (String × Outline)) :
    ofText (render (entry :: entries)) =
      some (ofNode (Outline.mapping (entry :: entries)).node) := by
  have own : ∀ c ∈ entriesAt 0 (entry :: entries), isPrintable c = true :=
    fun c mem => isPrintable_of_mem_entriesAt (entry :: entries) mem
  have allowed : (entriesAt 0 (entry :: entries)).all isAllowed = true := by
    rw [List.all_eq_true]
    intro c mem
    exact isAllowed_of_isPrintable (own c mem)
  rw [ofText, render, String.toList_ofList, if_pos allowed, unifyBreaks_of_printable own,
    Token.ofText_entriesAt, Option.bind_some, ofTokens_tokens]

end Document

end Placement.Yaml
