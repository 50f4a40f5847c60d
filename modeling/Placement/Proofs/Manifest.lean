import Placement.Manifest.Reading
import Placement.Manifest.Writing
import Placement.Proofs.Yaml.Document

/-!
# Written manifests read back

Every object is read back from the document that is written for it, whatever its texts look
like: a text that would read as something else is written between quotes, and a number is
not.

The main statement is `Manifest.objects_read_back`.
-/

namespace Placement

namespace Yaml.Core

/-! ## Numbers -/

/-- No number but zero is written with a zero at its beginning. -/
theorem head?_toDigits {n : Nat} (positive : 0 < n) : (Nat.toDigits 10 n).head? ≠ some '0' := by
  induction n using Nat.strongRecOn with
  | ind n ih =>
    by_cases small : n < 10
    · have digits : ∀ m < 10, 0 < m → Nat.digitChar m ≠ '0' := by decide
      rw [Nat.toDigits_of_lt_base small]
      simpa using digits n small positive
    · have smaller : n / 10 < n := Nat.div_lt_self positive (by decide)
      have before := ih (n / 10) smaller (by omega)
      rw [Nat.toDigits_of_base_le (by decide) (by omega),
        List.head?_append_of_ne_nil _ Nat.toDigits_ne_nil]
      exact before

theorem magnitude?_toDigits (n : Nat) : magnitude? (Nat.toDigits 10 n) = some n := by
  have digits : ∀ c ∈ Nat.toDigits 10 n, c.isDigit = true := fun c mem =>
    Nat.isDigit_of_mem_toDigits (by decide) (by decide) mem
  have padded : ∀ c rest, Nat.toDigits 10 n ≠ '0' :: c :: rest := by
    intro c rest same
    rcases Nat.eq_zero_or_pos n with rfl | positive
    · rw [Nat.toDigits_zero] at same
      simp at same
    · exact head?_toDigits positive (by rw [same]; rfl)
  unfold magnitude?
  split
  · next same => exact absurd same (padded _ _)
  · next same => exact absurd same (padded _ _)
  · next same => exact absurd same (padded _ _)
  · next same => exact absurd same (padded _ _)
  · exact Text.Decimal.natural?_toDigits n

/-- A written number is an integer. -/
theorem integer?_write (n : Int) : integer? (Text.Decimal.write n) = some n := by
  cases n with
  | negSucc n =>
    rw [Text.Decimal.write, integer?, magnitude?_toDigits]
    rfl
  | ofNat n =>
    have first : ∀ c ∈ Nat.toDigits 10 n, c ≠ '+' ∧ c ≠ '-' := by
      intro c mem
      have digit := Nat.isDigit_of_mem_toDigits (by decide) (by decide) mem
      exact ⟨Outline.ne_of_isDigit digit (by decide), Outline.ne_of_isDigit digit (by decide)⟩
    rw [Text.Decimal.write]
    unfold integer?
    split
    · next same => exact absurd rfl (first '+' (by rw [same]; simp)).1
    · next same => exact absurd rfl (first '-' (by rw [same]; simp)).2
    · rw [magnitude?_toDigits]
      rfl

/-- No word is a written number, if no word begins as one. -/
theorem not_contains_write {words : List String} (n : Int)
    (others : words.all (fun word => word.toList.head?.all fun c => c ≠ '-' && !c.isDigit) = true) :
    words.contains (String.ofList (Text.Decimal.write n)) = false := by
  obtain ⟨c, digits, digit, -, same⟩ := Outline.write_cases n
  rw [Bool.eq_false_iff]
  intro word
  have first := List.all_eq_true.1 others _ (by simpa using word)
  rw [String.toList_ofList] at first
  rcases same with same | same <;> simp [same, digit] at first

/-- A written number means itself, if it is not too large to be read as a number. -/
theorem ofText_write {n : Int} (readable : isReadable n = true) :
    ofText (String.ofList (Text.Decimal.write n)) = .int n := by
  rw [ofText, not_contains_write n (by decide), not_contains_write n (by decide),
    not_contains_write n (by decide), String.toList_ofList, ofNumber, integer?_write]
  simp [Option.filter, readable]

theorem isReadable_toInt (n : Int32) : isReadable n.toInt = true := by
  have low : -2147483648 ≤ n.toInt := n.minValue_le_toInt
  have high : n.toInt ≤ 2147483647 := n.toInt_le
  have lowest : -Int.pow 2 127 = -170141183460469231731687303715884105728 := by decide
  have highest : Int.pow 2 128 = 340282366920938463463374607431768211456 := by decide
  rw [isReadable, lowest, highest]
  simp only [Bool.and_eq_true, decide_eq_true_eq]
  omega

/-- A text that can be written without quotes, and does not mislead, is a text. -/
theorem ofText_of_clear {text : String} (clear : Outline.misleads text.toList = false) :
    ofText text = .text := by
  simp only [Outline.misleads, String.ofList_toList, Bool.or_eq_false_iff, decide_eq_false_iff_not,
    not_not] at clear
  exact clear.1

end Yaml.Core

namespace Manifest

open Yaml (Outline Document Style)

variable {d : Document}

/-! ## Common readings -/

@[simp] theorem resolve_node (d : Document) (outline : Outline) :
    d.resolve outline.node = some outline.node := by
  cases outline <;> rfl

@[simp] theorem text?_text (d : Document) (text : String) :
    text? d (Outline.text text).node = some text := rfl

theorem mapM_eq_map {α β : Type} {read : α → Option β} {value : α → β} {items : List α}
    (all : ∀ item, read item = some (value item)) : items.mapM read = some (items.map value) := by
  rw [funext all]
  exact List.mapM_pure

/-- A mapping is read with the keys that it is written with. -/
theorem keyed?_mapping (d : Document) (entries : List (String × Outline)) :
    keyed? d (Outline.mapping entries).node =
      some (entries.map fun entry => (entry.1, entry.2.node)) := by
  have read : entries? d (Outline.mapping entries).node = some (Outline.nodes entries) := rfl
  rw [keyed?, read, Option.bind_some, Outline.nodes_eq_map, List.mapM_map]
  exact mapM_eq_map fun _ => rfl

/-- Known fields that are written once each are read. -/
theorem fields?_mapping (d : Document) {known : List String} {entries : List (String × Outline)}
    (once : (entries.map (·.1)).Nodup) (all : ∀ entry ∈ entries, entry.1 ∈ known) :
    fields? d known (Outline.mapping entries).node =
      some (entries.map fun entry => (entry.1, entry.2.node)) := by
  have kept : (entries.map fun entry => (entry.1, entry.2.node)).filter
      (fun field => known.contains field.1) = entries.map fun entry => (entry.1, entry.2.node) := by
    rw [List.filter_eq_self]
    intro field mem
    obtain ⟨entry, there, rfl⟩ := List.mem_map.1 mem
    simpa using all entry there
  rw [fields?, keyed?_mapping, Option.bind_some]
  simp only [kept]
  rw [if_pos]
  rw [List.map_map]
  exact once

/-! ## Labels -/

/-- A map of labels is the map of its entries. -/
theorem labelsOf_toList (labels : Labels) : labelsOf labels.toList = labels := by
  have ofList : labelsOf labels.toList = Std.ExtTreeMap.ofList labels.toList :=
    Std.ExtTreeMap.ofList_eq_foldl.symm
  rw [ofList]
  apply Std.ExtTreeMap.ext_getElem?
  intro key
  cases found : labels[key]? with
  | some value =>
    exact Std.ExtTreeMap.getElem?_ofList_of_mem Std.ReflCmp.compare_self
      Std.ExtTreeMap.distinct_keys_toList
      (Std.ExtTreeMap.mem_toList_iff_getElem?_eq_some.2 found)
  | none =>
    apply Std.ExtTreeMap.getElem?_ofList_of_contains_eq_false
    rw [Bool.eq_false_iff]
    intro there
    obtain ⟨entry, mem, rfl⟩ := List.mem_map.1 (List.contains_iff_mem.1 there)
    have bound := Std.ExtTreeMap.mem_toList_iff_getElem?_eq_some.1 mem
    simp [found] at bound

/-- **Labels are read back**, however many there are. -/
theorem labels?_labelsOutline (d : Document) (labels : Labels) :
    labels? d (labelsOutline labels).node = some labels := by
  have keys : keyed? d (labelsOutline labels).node =
      some (labels.toList.map fun entry => (entry.1, (Outline.text entry.2).node)) := by
    rw [labelsOutline, keyed?_mapping, List.map_map]
    rfl
  have texts : (labels.toList.map fun entry => (entry.1, (Outline.text entry.2).node)).mapM
      (fun entry => (text? d entry.2).map fun text => (entry.1, text)) = some labels.toList := by
    rw [List.mapM_map]
    exact (mapM_eq_map fun _ => rfl).trans (by simp)
  rw [labels?, keys]
  refine (congrArg (Option.bind · fun texts => some (labelsOf texts)) texts).trans ?_
  rw [Option.bind_some, labelsOf_toList]

/-- A selector is read back. -/
theorem selector?_selectorOutline (d : Document) (selector : Labels) :
    selector? d (selectorOutline selector).node = some selector := by
  rw [selector?, selectorOutline, fields?_mapping d (by simp) (by simp)]
  simp [optional, labels?_labelsOutline]

/-! ## Numbers, words and targets -/

theorem toInt32?_toInt (n : Int32) : toInt32? n.toInt = some n := by
  have fits : Text.Decimal.fitsInt32 n.toInt = true := by
    simp only [Text.Decimal.fitsInt32, Bool.and_eq_true, decide_eq_true_eq]
    exact ⟨n.minValue_le_toInt, n.toInt_le⟩
  simp [toInt32?, fits]

/-- A 32-bit integer is read back. -/
theorem int32?_int (d : Document) (n : Int32) : int32? d (Outline.int n.toInt).node = some n := by
  rw [int32?, resolve_node]
  simp [Outline.node, Yaml.Core.integer?_write, toInt32?_toInt]

/-- A word is read back. -/
theorem oneOf?_text {α : Type} (words : List (String × α)) (d : Document) (word : String) :
    oneOf? words d (Outline.text word).node = words.lookup word := by
  rw [oneOf?, resolve_node]
  simp [Outline.node]

theorem lookup_modeWord (mode : Mode) : modeWords.lookup (modeWord mode) = some mode := by
  cases mode <;> rfl

theorem lookup_actionWord (action : Action) :
    actionWords.lookup (actionWord action) = some action := by
  cases action <;> rfl

/-- **A target is read back**: a count as a count, and a text as a text even if it looks like
a number. -/
theorem targetSize?_targetOutline (d : Document) (target : TargetSize) :
    targetSize? d (targetOutline target).node = some target := by
  rw [targetSize?, resolve_node]
  cases target with
  | count n =>
    simp only [targetOutline, Outline.node, targetOf?, if_true, plainTarget?]
    rw [Yaml.Core.ofText_write (Yaml.Core.isReadable_toInt n)]
    simp [toInt32?_toInt]
  | text s =>
    simp only [targetOutline, Outline.node, targetOf?]
    split
    · next plain =>
      have ways := Outline.styled 0 s.toList
      rw [plain] at ways
      generalize Outline.scalar 0 s.toList = written at ways
      cases ways with
      | plain clear => rw [plainTarget?, Yaml.Core.ofText_of_clear clear]
    · rfl

example : Outline.style "5".toList = .single := by decide

/-! ## Objects -/

/-- The identity and the labels of an object are read back. -/
theorem objectMeta?_metaOutline (d : Document) (identity : ObjectMeta) :
    objectMeta? d (metaOutline identity).node = some identity := by
  rw [objectMeta?, metaOutline, fields?_mapping d (by simp) (by simp)]
  simp [required, optional, List.lookup_cons, labels?_labelsOutline]

/-- The action and the target of a policy are read back. -/
theorem body?_outline (d : Document) (action : Action) (target : TargetSize) :
    body? d (Outline.mapping
      [("action", .text (actionWord action)), ("targetSize", targetOutline target)]).node =
        some (action, target) := by
  rw [body?, fields?_mapping d (by simp) (by simp)]
  simp [required, optional, List.lookup_cons, oneOf?_text, lookup_actionWord,
    targetSize?_targetOutline]

/-- What is specified for a policy is read back. -/
theorem specified?_outline (d : Document) (policy : Policy) :
    specified? d policy.toObjectMeta (Outline.mapping
      [("weight", .int policy.weight.toInt),
       ("enforcementMode", .text (modeWord policy.mode)),
       ("podSelector", selectorOutline policy.podSelector),
       ("nodeSelector", selectorOutline policy.nodeSelector),
       ("policy", .mapping
        [("action", .text (actionWord policy.action)),
         ("targetSize", targetOutline policy.target)])]).node = some policy := by
  rw [specified?, fields?_mapping d (by simp) (by simp)]
  simp [required, optional, List.lookup_cons, oneOf?_text, lookup_modeWord,
    selector?_selectorOutline, int32?_int, body?_outline]

/-- A written document is read from its bytes. -/
theorem document?_render (entry : String × Outline) (entries : List (String × Outline)) :
    document? (Outline.render (entry :: entries)).toUTF8 =
      some (.ofNode (Outline.mapping (entry :: entries)).node) := by
  have decoded : ∀ text : String, String.fromUTF8? text.toUTF8 = some text := by
    intro text
    simp [String.fromUTF8?, String.fromUTF8, String.toUTF8, text.isValidUTF8]
  rw [document?, decoded, Option.bind_some, Document.ofText_render]

/-- A pod is read back from its document. -/
theorem readPod_writePod (pod : Pod) : readPod (writePod pod).toUTF8 = some pod := by
  rw [readPod, writePod, podOutline, document?_render, Option.bind_some, pod?, Document.ofNode,
    fields?_mapping _ (by simp) (by simp)]
  simp [required, objectMeta?_metaOutline]

/-- A policy is read back from its document. -/
theorem readPolicy_writePolicy (policy : Policy) :
    readPolicy (writePolicy policy).toUTF8 = some policy := by
  rw [readPolicy, writePolicy, policyOutline, document?_render, Option.bind_some, policy?,
    Document.ofNode, fields?_mapping _ (by simp) (by simp)]
  simp [required, List.lookup_cons, objectMeta?_metaOutline, specified?_outline]

/-- **Every object is read back from its document**, whatever its texts, its labels, its weight
and its target are. -/
theorem objects_read_back :
    (∀ pod : Pod, readPod (writePod pod).toUTF8 = some pod) ∧
      ∀ policy : Policy, readPolicy (writePolicy policy).toUTF8 = some policy :=
  ⟨readPod_writePod, readPolicy_writePolicy⟩

/-- Different pods have different documents. -/
theorem writePod_inj {pod pod' : Pod} : writePod pod = writePod pod' ↔ pod = pod' := by
  constructor
  · intro same
    have read := readPod_writePod pod
    rw [same, readPod_writePod pod'] at read
    exact (Option.some.inj read).symm
  · rintro rfl
    rfl

/-- Different policies have different documents: a count and the text with its digits are told
apart. -/
theorem writePolicy_inj {policy policy' : Policy} :
    writePolicy policy = writePolicy policy' ↔ policy = policy' := by
  constructor
  · intro same
    have read := readPolicy_writePolicy policy
    rw [same, readPolicy_writePolicy policy'] at read
    exact (Option.some.inj read).symm
  · rintro rfl
    rfl

end Manifest

end Placement
