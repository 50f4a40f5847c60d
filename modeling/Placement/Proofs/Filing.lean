import Placement.Proofs.Labels
import Placement.Proofs.Namespaced
import Placement.Proofs.Watch.Key

/-!
# How far the pods are a table

The catalog files a pod under one text: its namespace and its name, with a slash between.  Where
neither holds a slash the text tells both, and the pods are found as in a table by namespace and
name.  A slash in either of them makes the text one that other pairs have too, and what is done to
one of these pairs is done to all of them.

## Main definitions

* `Catalog.PodChange` — what can be done to the pods, carried out on a catalog and on a table.
* `Catalog.FilesAs` — a catalog finds and lists pods as a table does.
* `Catalog.Tracks` — what a catalog and a table have in common after every run.

What one change does is said by `Catalog.PodChange.carry_tracks`.  The main statement is
`Catalog.pods_as_table_iff`.
-/

namespace Placement

/-! ## Texts that pods share -/

/-- A text without a slash in it. -/
def Unslashed (text : String) : Prop :=
  '/' ∉ text.toList

instance (text : String) : Decidable (Unslashed text) :=
  inferInstanceAs (Decidable (¬_))

namespace Pod

variable {ns name ns' name' : String}

/-- A text with one slash is that of one namespace and one name. -/
theorem fileKey_eq_iff (hns : Unslashed ns) (hname : Unslashed name) :
    fileKey ns' name' = fileKey ns name ↔ (ns', name') = (ns, name) := by
  constructor
  · intro same
    have slashes := congrArg (fun text => text.toList.count '/') same
    simp only [Watch.toList_fileKey, List.count_append, List.count_cons_self,
      List.count_eq_zero_of_not_mem hns, List.count_eq_zero_of_not_mem hname] at slashes
    have hns' : Unslashed ns' := List.count_eq_zero.mp (by omega)
    obtain ⟨rfl, rfl⟩ := Watch.fileKey_inj hns' hns same
    rfl
  · intro same
    obtain ⟨rfl, rfl⟩ := Prod.mk.inj same
    rfl

/-- A text with more than one slash is that of several namespaces and names. -/
theorem exists_fileKey_eq (h : ¬(Unslashed ns ∧ Unslashed name)) :
    ∃ ns' name', (ns', name') ≠ (ns, name) ∧ fileKey ns' name' = fileKey ns name := by
  by_cases hns : Unslashed ns
  · have there : '/' ∈ name.toList := Classical.not_not.mp fun hname => h ⟨hns, hname⟩
    obtain ⟨before, after, parts, -⟩ := List.eq_append_cons_of_mem there
    refine ⟨fileKey ns (String.ofList before), String.ofList after, ?_, ?_⟩
    · intro same
      have longer := congrArg (fun pair => pair.1.toList.length) same
      simp [Watch.toList_fileKey] at longer
    · rw [← String.toList_inj]
      simp [Watch.toList_fileKey, parts]
  · have there : '/' ∈ ns.toList := Classical.not_not.mp hns
    obtain ⟨before, after, parts, -⟩ := List.eq_append_cons_of_mem there
    refine ⟨String.ofList before, fileKey (String.ofList after) name, ?_, ?_⟩
    · intro same
      have shorter := congrArg (fun pair => pair.1.toList.length) same
      simp [parts] at shorter
    · rw [← String.toList_inj]
      simp [Watch.toList_fileKey, parts]

end Pod

namespace Catalog

/-! ## Changes -/

/-- The changes of the pods of a catalog. -/
inductive PodChange where
  | put (pod : Pod)
  | drop (ns name : String)

namespace PodChange

/-- The operation on a catalog that makes a change. -/
def command : PodChange → Command
  | put pod => .putPod pod
  | drop ns name => .dropPod ns name

/-- Makes a change.  Gives its answer, and the catalog afterwards. -/
def carry (catalog : Catalog) (change : PodChange) : Answer × Catalog :=
  catalog.run change.command

/-- The namespace and the name that a change is about. -/
def pair : PodChange → String × String
  | put pod => (pod.ns, pod.name)
  | drop ns name => (ns, name)

/-- What a change leaves under its namespace and name. -/
def leaves : PodChange → Option Pod
  | put pod => some pod
  | drop .. => none

/-- What a change does to a table.  A pod takes the place of the one that is there, and one that
is dropped is taken away; what was there is given. -/
def onTable (table : Table Pod) : PodChange → Answer × Table Pod
  | put pod => (.pod (table.lookup (pod.ns, pod.name)), table.insert (pod.ns, pod.name) pod)
  | drop ns name => (.pod (table.lookup (ns, name)), table.erase (ns, name))

variable {change : PodChange} {catalog : Catalog} {table : Table Pod}

theorem pair_of_leaves {pod : Pod} (h : change.leaves = some pod) :
    change.pair = (pod.ns, pod.name) := by
  cases change with
  | put put_pod =>
    obtain rfl := Option.some.inj h
    rfl
  | drop ns name => exact absurd h nofun

/-- A change of a catalog is a change of what is filed under one text. -/
theorem pods_carry (change : PodChange) (catalog : Catalog) (key : String) :
    (change.carry catalog).2.pods[key]? =
      if Pod.fileKey change.pair.1 change.pair.2 = key then change.leaves
      else catalog.pods[key]? := by
  have alike (own : String) : (compare own key = .eq) ↔ own = key :=
    Std.LawfulEqCmp.compare_eq_iff_eq
  cases change with
  | put pod => exact Std.ExtTreeMap.getElem?_insert.trans (if_congr (alike _) rfl rfl)
  | drop ns name => exact Std.ExtTreeMap.getElem?_erase.trans (if_congr (alike _) rfl rfl)

theorem pod?_carry (change : PodChange) (catalog : Catalog) (ns name : String) :
    (change.carry catalog).2.pod? ns name =
      if Pod.fileKey change.pair.1 change.pair.2 = Pod.fileKey ns name then change.leaves
      else catalog.pod? ns name :=
  pods_carry change catalog (Pod.fileKey ns name)

/-- A change of a table is a change of what it has for one namespace and name. -/
theorem lookup_onTable (change : PodChange) (table : Table Pod) (ns name : String) :
    (change.onTable table).2.lookup (ns, name) =
      if change.pair = (ns, name) then change.leaves else table.lookup (ns, name) := by
  by_cases same : change.pair = (ns, name)
  · rw [if_pos same, ← same]
    cases change with
    | put pod => exact Finmap.lookup_insert table
    | drop ns name => exact Finmap.lookup_erase (ns, name) table
  · rw [if_neg same]
    cases change with
    | put pod => exact Finmap.lookup_insert_of_ne table (Ne.symm same)
    | drop ns name => exact Finmap.lookup_erase_ne (Ne.symm same)

end PodChange

/-! ## What always holds -/

/-- What a catalog has of the pods of a table, whatever their names are: the pods that it files are
pods of the table, and none of those without a slash is missing. -/
structure Tracks (catalog : Catalog) (table : Table Pod) : Prop where
  current : ∀ (key : String) (pod : Pod), catalog.pods[key]? = some pod →
    key = Pod.fileKey pod.ns pod.name ∧ table.lookup (pod.ns, pod.name) = some pod
  named : ∀ ns name pod, table.lookup (ns, name) = some pod → pod.ns = ns ∧ pod.name = name
  unslashed : ∀ ns name, Unslashed ns → Unslashed name →
    catalog.pod? ns name = table.lookup (ns, name)

variable {catalog : Catalog} {table : Table Pod}

theorem tracks_empty : Tracks ∅ ∅ := by
  have no_pod (key : String) : (∅ : Catalog).pods[key]? = none :=
    Std.ExtTreeMap.getElem?_empty
  refine ⟨?current, ?named, ?unslashed⟩
  case current =>
    intro key pod found
    rw [no_pod] at found
    exact absurd found nofun
  case named =>
    intro ns name pod found
    rw [Finmap.lookup_empty] at found
    exact absurd found nofun
  case unslashed =>
    intro ns name _ _
    rw [Finmap.lookup_empty]
    exact no_pod _

/-- **A change keeps what a catalog has of a table.** -/
theorem PodChange.carry_tracks (change : PodChange) (h : Tracks catalog table) :
    Tracks (change.carry catalog).2 (change.onTable table).2 := by
  refine ⟨?current, ?named, ?unslashed⟩
  case current =>
    intro key pod found
    rw [pods_carry] at found
    rw [lookup_onTable]
    split at found
    next here =>
      have own := pair_of_leaves found
      rw [own] at here
      exact ⟨here.symm, by rw [if_pos own, found]⟩
    next elsewhere =>
      obtain ⟨own, current⟩ := h.current key pod found
      have other : change.pair ≠ (pod.ns, pod.name) := by
        intro same
        rw [same] at elsewhere
        exact elsewhere own.symm
      exact ⟨own, by rw [if_neg other, current]⟩
  case named =>
    intro ns name pod found
    rw [lookup_onTable] at found
    split at found
    next here => exact Prod.mk.inj ((pair_of_leaves found).symm.trans here)
    next => exact h.named ns name pod found
  case unslashed =>
    intro ns name hns hname
    rw [pod?_carry, lookup_onTable, h.unslashed ns name hns hname]
    exact if_congr (Pod.fileKey_eq_iff hns hname) rfl rfl

/-- **A run of changes keeps what a catalog has of a table.** -/
theorem Tracks.run (h : Tracks catalog table) (changes : List PodChange) :
    Tracks (carryAll PodChange.carry catalog changes).2
      (carryAll PodChange.onTable table changes).2 := by
  induction changes generalizing catalog table with
  | nil => exact h
  | cons change rest ih => exact ih (change.carry_tracks h)

/-! ## Listing -/

theorem mem_podsMatching {selector : Labels} {pod : Pod} :
    pod ∈ catalog.podsMatching selector ↔
      (∃ key : String, catalog.pods[key]? = some pod) ∧ pod.labels.Includes selector := by
  simp only [podsMatching, List.mem_filter, List.mem_map, Prod.exists, exists_eq_right,
    Std.ExtTreeMap.mem_toList_iff_getElem?_eq_some, Labels.satisfies_iff]

/-- A pod is listed when it is found under its own namespace and name. -/
theorem Tracks.mem_podsMatching (h : Tracks catalog table) {selector : Labels} {pod : Pod} :
    pod ∈ catalog.podsMatching selector ↔
      catalog.pod? pod.ns pod.name = some pod ∧ pod.labels.Includes selector := by
  rw [Catalog.mem_podsMatching, and_congr_left_iff]
  intro _
  constructor
  · rintro ⟨key, found⟩
    obtain ⟨rfl, -⟩ := h.current key pod found
    exact found
  · intro found
    exact ⟨_, found⟩

/-- No pod is listed twice, since it is filed under its own text only. -/
theorem Tracks.nodup_podsMatching (h : Tracks catalog table) (selector : Labels) :
    (catalog.podsMatching selector).Nodup := by
  have entries : catalog.pods.toList.Nodup := by
    refine Std.ExtTreeMap.distinct_keys_toList.imp ?_
    rintro entry _ distinct rfl
    exact distinct Std.ReflCmp.compare_self
  apply List.Nodup.filter
  apply List.Nodup.map_on _ entries
  rintro ⟨key, pod⟩ here ⟨key', pod'⟩ there rfl
  rw [Std.ExtTreeMap.mem_toList_iff_getElem?_eq_some] at here there
  rw [(h.current key pod here).1, (h.current key' pod there).1]

/-! ## When the pods are a table -/

/-- The catalog finds under every namespace and name what the table has for both, and lists for
every selector the pods of the table that satisfy it, each of them once. -/
structure FilesAs (catalog : Catalog) (table : Table Pod) : Prop where
  found : ∀ ns name, catalog.pod? ns name = table.lookup (ns, name)
  listed : ∀ (selector : Labels) (pod : Pod), pod ∈ catalog.podsMatching selector ↔
    (∃ ns name, table.lookup (ns, name) = some pod) ∧ pod.labels.Includes selector
  once : ∀ selector : Labels, (catalog.podsMatching selector).Nodup

/-- Pairs that share a text share what is found under them. -/
theorem pod?_congr {ns name ns' name' : String}
    (same : Pod.fileKey ns name = Pod.fileKey ns' name') :
    catalog.pod? ns name = catalog.pod? ns' name' := by
  rw [pod?, pod?, same]

/-- A pod with a slash in its namespace or name is found where the table has another or none. -/
theorem FilesAs.unslashed (h : FilesAs catalog table) (tracks : Tracks catalog table)
    {ns name : String} {pod : Pod} (has : table.lookup (ns, name) = some pod) :
    Unslashed ns ∧ Unslashed name := by
  by_contra slashed
  obtain ⟨ns', name', other, same⟩ := Pod.exists_fileKey_eq slashed
  have has' : table.lookup (ns', name') = some pod := by
    rw [← h.found ns' name', pod?_congr same, h.found ns name, has]
  obtain ⟨own_ns, own_name⟩ := tracks.named ns name pod has
  obtain ⟨own_ns', own_name'⟩ := tracks.named ns' name' pod has'
  apply other
  rw [← own_ns, ← own_name, ← own_ns', ← own_name']

/-- Without slashes in the namespaces and names of its pods a table is what the catalog files. -/
theorem Tracks.filesAs (h : Tracks catalog table)
    (unslashed : ∀ ns name pod, table.lookup (ns, name) = some pod →
      Unslashed ns ∧ Unslashed name) : FilesAs catalog table := by
  have found (ns name : String) : catalog.pod? ns name = table.lookup (ns, name) := by
    apply Option.ext
    intro pod
    constructor
    · intro found
      obtain ⟨same, current⟩ := h.current _ pod found
      obtain ⟨hns, hname⟩ := unslashed _ _ pod current
      rw [(Pod.fileKey_eq_iff hns hname).mp same, current]
    · intro has
      obtain ⟨hns, hname⟩ := unslashed ns name pod has
      rw [h.unslashed ns name hns hname, has]
  refine ⟨found, ?listed, h.nodup_podsMatching⟩
  case listed =>
    intro selector pod
    rw [h.mem_podsMatching, and_congr_left_iff, found]
    intro _
    constructor
    · intro has
      exact ⟨_, _, has⟩
    · rintro ⟨ns, name, has⟩
      obtain ⟨rfl, rfl⟩ := h.named ns name pod has
      exact has

/-- A change leaves what is found under all other pairs as it is exactly when no other pair shares
its text, or nothing changes under its own. -/
theorem PodChange.keeps_others_iff (change : PodChange) (catalog : Catalog) :
    (∀ ns name, (ns, name) ≠ change.pair →
        (change.carry catalog).2.pod? ns name = catalog.pod? ns name) ↔
      (Unslashed change.pair.1 ∧ Unslashed change.pair.2) ∨
        (change.carry catalog).2.pod? change.pair.1 change.pair.2 =
          catalog.pod? change.pair.1 change.pair.2 := by
  constructor
  · intro kept
    by_contra neither
    rw [not_or] at neither
    obtain ⟨slashed, changed⟩ := neither
    obtain ⟨ns, name, other, same⟩ := Pod.exists_fileKey_eq slashed
    apply changed
    rw [← pod?_congr same, kept ns name other, pod?_congr same]
  · rintro (⟨hns, hname⟩ | unchanged) ns name other
    · have apart : Pod.fileKey change.pair.1 change.pair.2 ≠ Pod.fileKey ns name := by
        intro same
        exact other ((Pod.fileKey_eq_iff hns hname).mp same.symm)
      rw [pod?_carry, if_neg apart]
    · rw [pod?_carry]
      split
      next same =>
        rw [pod?_carry, if_pos rfl] at unchanged
        rw [unchanged, pod?_congr same]
      next => rfl

/-- **When the pods are a table.**  After any changes of an empty catalog, what is found under a
namespace and a name without slashes is what the same changes leave there in a table.  All that is
found and listed is as in the table exactly when no pod that the table has then holds a slash in
its namespace or name.  A further change leaves what is found under other pairs as it is exactly
when its own pair holds no slash, or when it changes nothing there either. -/
theorem pods_as_table_iff (changes : List PodChange) :
    let run := carryAll PodChange.carry (∅ : Catalog) changes
    let table := carryAll PodChange.onTable (∅ : Table Pod) changes
    (∀ ns name, Unslashed ns → Unslashed name →
        run.2.pod? ns name = table.2.lookup (ns, name)) ∧
      (FilesAs run.2 table.2 ↔
        ∀ ns name pod, table.2.lookup (ns, name) = some pod → Unslashed ns ∧ Unslashed name) ∧
      ∀ change : PodChange,
        (∀ ns name, (ns, name) ≠ change.pair →
            (change.carry run.2).2.pod? ns name = run.2.pod? ns name) ↔
          (Unslashed change.pair.1 ∧ Unslashed change.pair.2) ∨
            (change.carry run.2).2.pod? change.pair.1 change.pair.2 =
              run.2.pod? change.pair.1 change.pair.2 := by
  intro run table
  have tracks : Tracks run.2 table.2 := tracks_empty.run changes
  refine ⟨tracks.unslashed, ⟨?_, tracks.filesAs⟩, ?_⟩
  · intro files ns name pod has
    exact files.unslashed tracks has
  · intro change
    exact change.keeps_others_iff run.2

/-- Two pods of different namespaces and names that share the text `shop/web/api`: the second one
takes the place of the first. -/
def straddling : List PodChange :=
  [.put { ns := "shop/web", name := "api", uid := "u" },
    .put { ns := "shop", name := "web/api", uid := "v" }]

theorem not_filesAs_straddling :
    ¬FilesAs (carryAll PodChange.carry ∅ straddling).2
      (carryAll PodChange.onTable ∅ straddling).2 := by
  intro files
  have found := files.found "shop/web" "api"
  have lost : (carryAll PodChange.carry ∅ straddling).2.pod? "shop/web" "api" =
      some { ns := "shop", name := "web/api", uid := "v" } := by decide +kernel
  have there : (carryAll PodChange.onTable ∅ straddling).2.lookup ("shop/web", "api") =
      some { ns := "shop/web", name := "api", uid := "u" } := by decide +kernel
  rw [lost, there] at found
  exact absurd found (by decide)

end Catalog

end Placement
