import Mathlib.Data.List.Nodup
import Mathlib.Logic.Relation
import Placement.Manifest.Reading

/-!
# What the fields of a manifest decide

A mapping that describes an object is read by its known fields.  In which order they come, what
else stands among them and whether an optional field is written out with its default does not
matter, on any level; a field that must be there must be there, and none may come twice.  The
entries of a map of labels are no fields: there every key counts.

References mean what they mean in the document that is read.

## Main definitions

* `Shape` — the fields that a mapping is read by; `podShape` and `policyShape` are those of the
  objects.
* `Restates` — one change to how the same fields are written.
* `Flawed` — a field is missing or comes twice.
* `Reads`, `FieldReads` — readings that restating does not change, and that refuse what is flawed.

A reading is put together from those of its fields by `FieldReads.required`,
`FieldReads.optional` and `FieldReads.bind`.  The main statement is `read_by_fields`.
-/

namespace Placement.Manifest

open Yaml (Document)

/-! ## Shapes -/

/-- Whether a field must be there. -/
inductive Presence where
  | required
  /-- It may be left out, and then means what these nodes do. -/
  | optional (default : Yaml.Node → Prop)

/-- What a node is read by. -/
inductive Shape where
  /-- A value, all of which counts. -/
  | value
  | struct (fields : List (String × Presence × Shape))

section Shapes

variable (d : Document)

/-- The fields of the identity and labels of an object. -/
def metaShape : Shape :=
  .struct
    [("name", .required, .value),
     ("namespace", .optional fun node => text? d node = some "", .value),
     ("uid", .optional fun node => text? d node = some "", .value),
     ("labels", .optional fun node => labels? d node = some ∅, .value)]

/-- The field of a selector. -/
def selectorShape : Shape :=
  .struct [("matchLabels", .optional fun node => labels? d node = some ∅, .value)]

/-- The fields of the action and the target of a policy. -/
def bodyShape : Shape :=
  .struct
    [("action", .optional fun node => oneOf? actionWords d node = some .must, .value),
     ("targetSize", .required, .value)]

/-- The fields of what is specified for a policy. -/
def specShape : Shape :=
  .struct
    [("weight", .optional fun node => int32? d node = some 0, .value),
     ("enforcementMode", .optional fun node => oneOf? modeWords d node = some .bestEffort, .value),
     ("podSelector", .optional fun node => selector? d node = some ∅, selectorShape d),
     ("nodeSelector", .optional fun node => selector? d node = some ∅, selectorShape d),
     ("policy", .required, bodyShape d)]

/-- The field of a pod. -/
def podShape : Shape :=
  .struct [("metadata", .required, metaShape d)]

/-- The fields of a policy. -/
def policyShape : Shape :=
  .struct [("metadata", .required, metaShape d), ("spec", .required, specShape d)]

end Shapes

/-! ## Changes and flaws -/

variable {d : Document} {shape : Shape} {fields : List (String × Presence × Shape)}
  {node node' value : Yaml.Node} {entries entries' : List (Yaml.Node × Yaml.Node)}
  {name : String} {known : List String} {α β : Type}

/-- One change to how a node of some shape is written.  Since the entries may be put in any order,
a change of one of them is only described where it comes first. -/
inductive Restates (d : Document) : Shape → Yaml.Node → Yaml.Node → Prop
  | reordered {fields : List (String × Presence × Shape)} {node node' : Yaml.Node}
      {entries entries' : List (Yaml.Node × Yaml.Node)}
      (before : entries? d node = some entries) (after : entries? d node' = some entries')
      (same : entries.Perm entries') : Restates d (.struct fields) node node'
  /-- There is one more entry, which is none of the fields. -/
  | extended {fields : List (String × Presence × Shape)} {node node' key value : Yaml.Node}
      {entries : List (Yaml.Node × Yaml.Node)} {name : String}
      (before : entries? d node = some entries)
      (after : entries? d node' = some ((key, value) :: entries))
      (named : text? d key = some name) (unknown : fields.lookup name = none) :
      Restates d (.struct fields) node node'
  /-- A field that was left out is written with its default. -/
  | completed {fields : List (String × Presence × Shape)} {node node' key value : Yaml.Node}
      {entries : List (Yaml.Node × Yaml.Node)} {name : String} {default : Yaml.Node → Prop}
      {shape : Shape} (before : entries? d node = some entries)
      (after : entries? d node' = some ((key, value) :: entries))
      (named : text? d key = some name)
      (declared : fields.lookup name = some (.optional default, shape))
      (omitted : ∀ entry ∈ entries, text? d entry.1 ≠ some name) (means : default value) :
      Restates d (.struct fields) node node'
  | inside {fields : List (String × Presence × Shape)} {node node' key value value' : Yaml.Node}
      {entries : List (Yaml.Node × Yaml.Node)} {name : String} {presence : Presence}
      {shape : Shape} (before : entries? d node = some ((key, value) :: entries))
      (after : entries? d node' = some ((key, value') :: entries))
      (named : text? d key = some name) (declared : fields.lookup name = some (presence, shape))
      (restates : Restates d shape value value') : Restates d (.struct fields) node node'

/-- What a node of some shape may not be. -/
inductive Flawed (d : Document) : Shape → Yaml.Node → Prop
  | lacking {fields : List (String × Presence × Shape)} {node : Yaml.Node}
      {entries : List (Yaml.Node × Yaml.Node)} {name : String} {shape : Shape}
      (holds : entries? d node = some entries)
      (declared : fields.lookup name = some (.required, shape))
      (omitted : ∀ entry ∈ entries, text? d entry.1 ≠ some name) : Flawed d (.struct fields) node
  | repeated {fields : List (String × Presence × Shape)} {node : Yaml.Node}
      {entries : List (Yaml.Node × Yaml.Node)} {first second : Yaml.Node × Yaml.Node}
      {name : String} (holds : entries? d node = some entries)
      (both : [first, second].Sublist entries) (first_named : text? d first.1 = some name)
      (second_named : text? d second.1 = some name)
      (declared : (fields.lookup name).isSome) : Flawed d (.struct fields) node
  | inside {fields : List (String × Presence × Shape)} {node key value : Yaml.Node}
      {entries : List (Yaml.Node × Yaml.Node)} {name : String} {presence : Presence}
      {shape : Shape} (holds : entries? d node = some entries) (there : (key, value) ∈ entries)
      (named : text? d key = some name) (declared : fields.lookup name = some (presence, shape))
      (flawed : Flawed d shape value) : Flawed d (.struct fields) node

/-! ## Fields among entries -/

section Lookup

variable {fs fs' : List (String × α)} {a : α}

theorem lookup_of_mem (once : (fs.map (·.1)).Nodup) (there : (name, a) ∈ fs) :
    fs.lookup name = some a := by
  obtain ⟨before, after, rfl⟩ := List.append_of_mem there
  rw [List.lookup_eq_some_iff]
  refine ⟨before, after, rfl, ?_⟩
  intro field mem
  simp only [List.map_append, List.map_cons, List.nodup_middle, List.nodup_cons, List.mem_append,
    not_or] at once
  rw [bne_iff_ne]
  rintro rfl
  exact once.1.1 (List.mem_map_of_mem mem)

theorem mem_of_lookup (found : fs.lookup name = some a) : (name, a) ∈ fs := by
  obtain ⟨before, after, rfl, -⟩ := List.lookup_eq_some_iff.mp found
  simp

theorem mem_names_of_lookup (found : fs.lookup name = some a) : name ∈ fs.map (·.1) :=
  List.mem_map_of_mem (mem_of_lookup found)

/-- A name is among fields when something is found under it. -/
theorem mem_names : name ∈ fs.map (·.1) ↔ (fs.lookup name).isSome := by
  constructor
  · intro there
    obtain ⟨field, mem, rfl⟩ := List.mem_map.mp there
    exact List.lookup_isSome_iff.mpr ⟨field, mem, beq_self_eq_true _⟩
  · intro found
    obtain ⟨a, found⟩ := Option.isSome_iff_exists.mp found
    exact mem_names_of_lookup found

/-- What is found does not depend on the order. -/
theorem lookup_perm (same : fs.Perm fs') (once : (fs.map (·.1)).Nodup) (name : String) :
    fs.lookup name = fs'.lookup name := by
  have once' : (fs'.map (·.1)).Nodup := (same.map _).nodup_iff.mp once
  apply Option.ext
  intro a
  constructor
  · intro found
    exact lookup_of_mem once' (same.mem_iff.mp (mem_of_lookup found))
  · intro found
    exact lookup_of_mem once (same.mem_iff.mpr (mem_of_lookup found))

end Lookup

/-- The fields among entries, by their names. -/
def fieldsOf (d : Document) (known : List String) (entries : List (Yaml.Node × Yaml.Node)) :
    List (String × Yaml.Node) :=
  (entries.filterMap fun entry => (text? d entry.1).map fun key => (key, entry.2)).filter
    fun field => known.contains field.1

theorem mem_fieldsOf :
    (name, value) ∈ fieldsOf d known entries ↔
      name ∈ known ∧ ∃ key, (key, value) ∈ entries ∧ text? d key = some name := by
  simp only [fieldsOf, List.mem_filter, List.mem_filterMap, List.contains_iff_mem, Prod.exists,
    Option.map_eq_some_iff, Prod.mk.injEq]
  grind

theorem fieldsOf_cons {key : Yaml.Node} (named : text? d key = some name) (value : Yaml.Node)
    (entries : List (Yaml.Node × Yaml.Node)) :
    fieldsOf d known ((key, value) :: entries) =
      if name ∈ known then (name, value) :: fieldsOf d known entries
      else fieldsOf d known entries := by
  simp only [fieldsOf, List.filterMap_cons, named, Option.map_some, List.filter_cons,
    List.contains_iff_mem]

/-- The keys of entries are read if they are all texts. -/
theorem mapM_keys (d : Document) (entries : List (Yaml.Node × Yaml.Node)) :
    (entries.mapM fun (key, value) => (text? d key).map fun key => (key, value)) =
      if ∀ entry ∈ entries, (text? d entry.1).isSome then
        some (entries.filterMap fun entry => (text? d entry.1).map fun key => (key, entry.2))
      else none := by
  induction entries with
  | nil => rfl
  | cons entry entries ih =>
    rw [List.mapM_cons, ih]
    cases named : text? d entry.1 with
    | none => simp [named]
    | some key =>
      simp only [List.forall_mem_cons, named, Option.isSome_some, true_and, List.filterMap_cons,
        Option.map_some]
      split <;> rfl

/-- The keys of entries are texts, and none of the known fields comes twice. -/
def Readable (d : Document) (known : List String) (entries : List (Yaml.Node × Yaml.Node)) : Prop :=
  (∀ entry ∈ entries, (text? d entry.1).isSome) ∧ ((fieldsOf d known entries).map (·.1)).Nodup

/-- **The fields of a mapping are read if it is readable**, and in no other case. -/
theorem fields?_eq_some_iff (holds : entries? d node = some entries)
    {fs : List (String × Yaml.Node)} :
    fields? d known node = some fs ↔ Readable d known entries ∧ fieldsOf d known entries = fs := by
  rw [fields?, keyed?, holds, Option.bind_some, mapM_keys, Readable]
  by_cases texts : ∀ entry ∈ entries, (text? d entry.1).isSome
  · rw [if_pos texts, Option.bind_some, and_iff_right texts]
    exact Option.ite_none_right_eq_some.trans (and_congr_right fun _ => Option.some_inj)
  · rw [if_neg texts, Option.bind_none]
    exact ⟨nofun, fun read => absurd read.1.1 texts⟩

theorem fields?_eq_none_iff (holds : entries? d node = some entries) :
    fields? d known node = none ↔ ¬Readable d known entries := by
  rw [Option.eq_none_iff_forall_ne_some]
  constructor
  · intro unread readable
    exact unread _ ((fields?_eq_some_iff holds).mpr ⟨readable, rfl⟩)
  · intro unreadable fs read
    exact unreadable ((fields?_eq_some_iff holds).mp read).1

/-! ## Fields that say the same -/

/-- What two mappings have for a field, if one is a restatement of the other: the same, or its
default where it was left out, or the field restated. -/
inductive FieldAlike (d : Document) (fields : List (String × Presence × Shape)) (name : String) :
    Option Yaml.Node → Option Yaml.Node → Prop
  | same (found : Option Yaml.Node) : FieldAlike d fields name found found
  | completed {default : Yaml.Node → Prop} {shape : Shape} {value : Yaml.Node}
      (declared : fields.lookup name = some (.optional default, shape)) (means : default value) :
      FieldAlike d fields name none (some value)
  | inside {presence : Presence} {shape : Shape} {value value' : Yaml.Node}
      (declared : fields.lookup name = some (presence, shape))
      (restates : Restates d shape value value') :
      FieldAlike d fields name (some value) (some value')

/-- What two mappings have for all fields, if one is a restatement of the other. -/
def Alike (d : Document) (fields : List (String × Presence × Shape))
    (fs fs' : List (String × Yaml.Node)) : Prop :=
  ∀ name, FieldAlike d fields name (fs.lookup name) (fs'.lookup name)

theorem Alike.perm {fs fs' : List (String × Yaml.Node)} (same : fs.Perm fs')
    (once : (fs.map (·.1)).Nodup) : Alike d fields fs fs' := by
  intro name
  rw [lookup_perm same once]
  exact .same _

/-- Fields are alike if the first of them are and the others are the same. -/
theorem Alike.cons {fs : List (String × Yaml.Node)} {value' : Yaml.Node}
    (first : FieldAlike d fields name (some value) (some value')) :
    Alike d fields ((name, value) :: fs) ((name, value') :: fs) := by
  intro other
  rw [List.lookup_cons, List.lookup_cons]
  split
  next same =>
    obtain rfl := beq_iff_eq.mp same
    exact first
  next => exact .same _

/-- Fields are alike if one more has its default. -/
theorem Alike.completed {fs : List (String × Yaml.Node)}
    (first : FieldAlike d fields name none (some value)) (omitted : fs.lookup name = none) :
    Alike d fields fs ((name, value) :: fs) := by
  intro other
  rw [List.lookup_cons]
  split
  next same =>
    obtain rfl := beq_iff_eq.mp same
    rw [omitted]
    exact first
  next => exact .same _

theorem readable_perm (same : entries.Perm entries') :
    Readable d known entries ↔ Readable d known entries' := by
  have fields : (fieldsOf d known entries).Perm (fieldsOf d known entries') :=
    (same.filterMap _).filter _
  rw [Readable, Readable, (fields.map _).nodup_iff]
  exact and_congr_left fun _ => forall_congr' fun entry => imp_congr_left same.mem_iff

/-- One more entry leaves a mapping readable unless it is a known field that is there already. -/
theorem readable_cons {key : Yaml.Node} (named : text? d key = some name) :
    Readable d known ((key, value) :: entries) ↔
      Readable d known entries ∧ (name ∈ known → name ∉ (fieldsOf d known entries).map (·.1)) := by
  rw [Readable, Readable, fieldsOf_cons named, List.forall_mem_cons, named]
  split
  next there => simp only [List.map_cons, List.nodup_cons, Option.isSome_some]; tauto
  next unknown => simp only [Option.isSome_some]; tauto

theorem lookup_fieldsOf_eq_none (omitted : ∀ entry ∈ entries, text? d entry.1 ≠ some name) :
    (fieldsOf d known entries).lookup name = none := by
  rw [Option.eq_none_iff_forall_ne_some]
  intro value found
  obtain ⟨-, key, there, named⟩ := mem_fieldsOf.mp (mem_of_lookup found)
  exact omitted (key, value) there named

/-- **What restating does to the fields.**  Both mappings are readable or neither is, and their
fields say the same. -/
theorem Restates.on_fields (restates : Restates d (.struct fields) node node') :
    ∃ entries entries', entries? d node = some entries ∧ entries? d node' = some entries' ∧
      (Readable d (fields.map (·.1)) entries ↔ Readable d (fields.map (·.1)) entries') ∧
      (Readable d (fields.map (·.1)) entries →
        Alike d fields (fieldsOf d (fields.map (·.1)) entries)
          (fieldsOf d (fields.map (·.1)) entries')) := by
  cases restates with
  | reordered before after same =>
    refine ⟨_, _, before, after, readable_perm same, ?_⟩
    intro readable
    exact .perm ((same.filterMap _).filter _) readable.2
  | @extended _ _ _ key value entries name before after named unknown =>
    have unknown : name ∉ fields.map (·.1) := by
      rw [mem_names, unknown]
      exact nofun
    refine ⟨_, _, before, after, ?_, ?_⟩
    · rw [readable_cons named]
      exact (and_iff_left fun there => absurd there unknown).symm
    · intro _
      rw [fieldsOf_cons named, if_neg unknown]
      exact fun _ => .same _
  | @completed _ _ _ key value entries name _ _ before after named declared omitted means =>
    have known : name ∈ fields.map (·.1) := mem_names_of_lookup declared
    have none_there : (fieldsOf d (fields.map (·.1)) entries).lookup name = none :=
      lookup_fieldsOf_eq_none omitted
    refine ⟨_, _, before, after, ?_, ?_⟩
    · rw [readable_cons named]
      refine (and_iff_left fun _ => ?_).symm
      rw [mem_names, none_there]
      exact nofun
    · intro _
      rw [fieldsOf_cons named, if_pos known]
      exact .completed (.completed declared means) none_there
  | @inside _ _ _ key value value' entries name _ _ before after named declared restates =>
    have known : name ∈ fields.map (·.1) := mem_names_of_lookup declared
    refine ⟨_, _, before, after, ?_, ?_⟩
    · rw [readable_cons named, readable_cons named]
    · intro _
      rw [fieldsOf_cons named, fieldsOf_cons named, if_pos known, if_pos known]
      exact .cons (.inside declared restates)

/-! ## Fields that are flawed -/

/-- A field is missing that must be there, or is there and flawed. -/
def FlawedAt (d : Document) (fields : List (String × Presence × Shape))
    (fs : List (String × Yaml.Node)) (name : String) : Prop :=
  (∃ shape, fields.lookup name = some (.required, shape) ∧ fs.lookup name = none) ∨
    ∃ presence shape value, fields.lookup name = some (presence, shape) ∧
      fs.lookup name = some value ∧ Flawed d shape value

/-- **A flawed mapping has a flawed field**, if it is readable. -/
theorem Flawed.on_fields (flawed : Flawed d (.struct fields) node) :
    ∃ entries, entries? d node = some entries ∧
      (Readable d (fields.map (·.1)) entries →
        ∃ name ∈ fields.map (·.1),
          FlawedAt d fields (fieldsOf d (fields.map (·.1)) entries) name) := by
  cases flawed with
  | lacking holds declared omitted =>
    exact ⟨_, holds, fun _ => ⟨_, mem_names_of_lookup declared,
      .inl ⟨_, declared, lookup_fieldsOf_eq_none omitted⟩⟩⟩
  | @repeated _ _ entries first second name holds both first_named second_named declared =>
    refine ⟨_, holds, fun readable => ?_⟩
    have known : name ∈ fields.map (·.1) := mem_names.mpr declared
    have twice : [name, name].Sublist ((fieldsOf d (fields.map (·.1)) entries).map (·.1)) := by
      have kept := ((both.filterMap fun entry =>
        (text? d entry.1).map fun key => (key, entry.2)).filter
          fun field => (fields.map (·.1)).contains field.1).map (·.1)
      simpa [first_named, second_named, known, fieldsOf] using kept
    exact absurd (readable.2.sublist twice) (by simp)
  | @inside _ _ key value entries name _ _ holds there named declared flawed =>
    have known : name ∈ fields.map (·.1) := mem_names_of_lookup declared
    refine ⟨_, holds, fun readable => ⟨name, known, .inr ⟨_, _, value, declared, ?_, flawed⟩⟩⟩
    exact lookup_of_mem readable.2 (mem_fieldsOf.mpr ⟨known, key, there, named⟩)

/-! ## Readings -/

/-- A reading that goes by a shape: what is restated reads the same, and what is flawed does not
read. -/
structure Reads (d : Document) (shape : Shape) (read : Yaml.Node → Option α) : Prop where
  restated : ∀ {node node'}, Restates d shape node node' → read node' = read node
  flawed : ∀ {node}, Flawed d shape node → read node = none

/-- A reading of fields that goes by the shapes of those with these names. -/
structure FieldReads (d : Document) (fields : List (String × Presence × Shape))
    (names : List String) (read : List (String × Yaml.Node) → Option α) : Prop where
  alike : ∀ {fs fs'}, Alike d fields fs fs' → read fs' = read fs
  flawed : ∀ {fs name}, name ∈ names → FlawedAt d fields fs name → read fs = none

/-- Any reading goes by the shape of a value, which can only be written in one way. -/
theorem Reads.of_value (read : Yaml.Node → Option α) : Reads d .value read where
  restated := nofun
  flawed := nofun

namespace FieldReads

variable {names names' : List String} {read : List (String × Yaml.Node) → Option α}

theorem const (result : Option α) : FieldReads d fields [] fun _ => result where
  alike _ := rfl
  flawed := nofun

/-- A field that must be there is read by its shape. -/
theorem required {read : Yaml.Node → Option α} (reads : Reads d shape read)
    (declared : fields.lookup name = some (.required, shape)) :
    FieldReads d fields [name] fun fs => Manifest.required fs name read where
  alike := by
    intro fs fs' alike
    have found := alike name
    unfold Manifest.required
    generalize fs.lookup name = o, fs'.lookup name = o' at found
    cases found with
    | same => rfl
    | completed optional => simp [declared] at optional
    | inside other restates =>
      obtain ⟨-, rfl⟩ := Prod.mk.inj (Option.some.inj (declared.symm.trans other))
      exact reads.restated restates
  flawed := by
    intro fs other mem flawed
    obtain rfl := List.mem_singleton.mp mem
    unfold Manifest.required
    obtain ⟨_, -, missing⟩ | ⟨_, _, value, other, found, flawed⟩ := flawed
    · rw [missing, Option.bind_none]
    · obtain ⟨-, rfl⟩ := Prod.mk.inj (Option.some.inj (declared.symm.trans other))
      rw [found, Option.bind_some, reads.flawed flawed]

/-- A field that may be left out is read by its shape, if its default reads as such. -/
theorem optional {read : Yaml.Node → Option α} {a : α} {default : Yaml.Node → Prop}
    (reads : Reads d shape read)
    (declared : fields.lookup name = some (.optional default, shape))
    (means : ∀ node, default node → read node = some a) :
    FieldReads d fields [name] fun fs => Manifest.optional fs name a read where
  alike := by
    intro fs fs' alike
    have found := alike name
    unfold Manifest.optional
    generalize fs.lookup name = o, fs'.lookup name = o' at found
    cases found with
    | same => rfl
    | completed other default =>
      have own := Option.some.inj (declared.symm.trans other)
      obtain ⟨rfl, rfl⟩ : _ ∧ _ := by simpa using own
      exact means _ default
    | inside other restates =>
      obtain ⟨-, rfl⟩ := Prod.mk.inj (Option.some.inj (declared.symm.trans other))
      exact reads.restated restates
  flawed := by
    intro fs other mem flawed
    obtain rfl := List.mem_singleton.mp mem
    unfold Manifest.optional
    obtain ⟨_, required, -⟩ | ⟨_, _, value, other, found, flawed⟩ := flawed
    · simp [declared] at required
    · obtain ⟨-, rfl⟩ := Prod.mk.inj (Option.some.inj (declared.symm.trans other))
      simp only [found, reads.flawed flawed]

/-- One reading after the other goes by the shapes that either goes by. -/
theorem bind {next : α → List (String × Yaml.Node) → Option β}
    (first : FieldReads d fields names read) (second : ∀ a, FieldReads d fields names' (next a)) :
    FieldReads d fields (names ++ names') fun fs => read fs >>= fun a => next a fs where
  alike := by
    intro fs fs' alike
    simp only [first.alike alike, (second _).alike alike]
  flawed := by
    intro fs name mem flawed
    obtain here | there := List.mem_append.mp mem
    · rw [first.flawed here flawed]
      rfl
    · cases read fs with
      | none => rfl
      | some a => exact (second a).flawed there flawed

end FieldReads

/-- **A mapping is read by its shape**, if its fields are. -/
theorem Reads.of_fields {names : List String} {read : List (String × Yaml.Node) → Option α}
    (reads : FieldReads d fields names read) (all : names = fields.map (·.1)) :
    Reads d (.struct fields) fun node => fields? d names node >>= read where
  restated := by
    intro node node' restates
    obtain ⟨entries, entries', holds, holds', readable_iff, alike⟩ := restates.on_fields
    subst all
    by_cases readable : Readable d (fields.map (·.1)) entries
    · rw [(fields?_eq_some_iff holds).mpr ⟨readable, rfl⟩,
        (fields?_eq_some_iff holds').mpr ⟨readable_iff.mp readable, rfl⟩]
      exact reads.alike (alike readable)
    · rw [fields?_eq_none_iff holds |>.mpr readable,
        fields?_eq_none_iff holds' |>.mpr (mt readable_iff.mpr readable)]
  flawed := by
    intro node flawed
    obtain ⟨entries, holds, flawed_at⟩ := flawed.on_fields
    subst all
    by_cases readable : Readable d (fields.map (·.1)) entries
    · obtain ⟨name, known, flawed⟩ := flawed_at readable
      rw [(fields?_eq_some_iff holds).mpr ⟨readable, rfl⟩]
      exact reads.flawed known flawed
    · rw [(fields?_eq_none_iff holds).mpr readable]
      rfl

/-! ## The readings of objects -/

theorem reads_objectMeta (d : Document) : Reads d (metaShape d) (objectMeta? d) :=
  .of_fields
    (.bind (.required (.of_value (text? d)) rfl) fun _ =>
      .bind (.optional (.of_value (text? d)) rfl fun _ => id) fun _ =>
      .bind (.optional (.of_value (text? d)) rfl fun _ => id) fun _ =>
      .bind (.optional (.of_value (labels? d)) rfl fun _ => id) fun _ => .const _)
    rfl

theorem reads_selector (d : Document) : Reads d (selectorShape d) (selector? d) :=
  .of_fields (.optional (.of_value (labels? d)) rfl fun _ => id) rfl

theorem reads_body (d : Document) : Reads d (bodyShape d) (body? d) :=
  .of_fields
    (.bind (.optional (.of_value (oneOf? actionWords d)) rfl fun _ => id) fun _ =>
      .bind (.required (.of_value (targetSize? d)) rfl) fun _ => .const _)
    rfl

theorem reads_specified (d : Document) (identity : ObjectMeta) :
    Reads d (specShape d) (specified? d identity) :=
  .of_fields
    (.bind (.optional (.of_value (int32? d)) rfl fun _ => id) fun _ =>
      .bind (.optional (.of_value (oneOf? modeWords d)) rfl fun _ => id) fun _ =>
      .bind (.optional (reads_selector d) rfl fun _ => id) fun _ =>
      .bind (.optional (reads_selector d) rfl fun _ => id) fun _ =>
      .bind (.required (reads_body d) rfl) fun _ => .const _)
    rfl

/-- The reading of a pod, with any node in place of that of its document. -/
theorem reads_pod (d : Document) : Reads d (podShape d) fun root => pod? { d with root := root } :=
  .of_fields (.bind (.required (reads_objectMeta d) rfl) fun _ => .const _) rfl

/-- The reading of a policy, with any node in place of that of its document. -/
theorem reads_policy (d : Document) :
    Reads d (policyShape d) fun root => policy? { d with root := root } :=
  .of_fields
    (.bind (.required (reads_objectMeta d) rfl) fun identity =>
      .required (reads_specified d identity) rfl)
    rfl

/-- Any number of changes leave what is read as it is. -/
theorem Reads.restated_all {read : Yaml.Node → Option α} (reads : Reads d shape read)
    (restates : Relation.ReflTransGen (Restates d shape) node node') : read node' = read node := by
  induction restates with
  | refl => rfl
  | tail _ last ih => rw [reads.restated last, ih]

/-- The defaults read as such in the words in which they are written: an empty text, an empty
mapping, a plain zero, and the words for the mode and the action. -/
theorem defaults_read (d : Document) (style : Yaml.Style) :
    text? d (.scalar none style "") = some "" ∧ labels? d (.mapping []) = some ∅ ∧
      int32? d (.scalar none .plain "0") = some 0 ∧
      oneOf? modeWords d (.scalar none style "BestEffort") = some .bestEffort ∧
      selector? d (.mapping []) = some ∅ ∧
      oneOf? actionWords d (.scalar none style "Must") = some .must :=
  ⟨rfl, rfl, rfl, rfl, rfl, rfl⟩

/-- **Objects are read by their fields.**  However often a document is restated, on any level, it
gives the pod, the policy or the refusal that it gave.  A document with a flaw on any level gives
none.  The defaults can be written as one would write them. -/
theorem read_by_fields :
    (∀ (d : Document) (root : Yaml.Node),
      (Relation.ReflTransGen (Restates d (podShape d)) d.root root →
        pod? { d with root := root } = pod? d) ∧
      (Relation.ReflTransGen (Restates d (policyShape d)) d.root root →
        policy? { d with root := root } = policy? d)) ∧
      (∀ d : Document, (Flawed d (podShape d) d.root → pod? d = none) ∧
        (Flawed d (policyShape d) d.root → policy? d = none)) ∧
      ∀ (d : Document) (style : Yaml.Style),
        text? d (.scalar none style "") = some "" ∧ labels? d (.mapping []) = some ∅ ∧
          int32? d (.scalar none .plain "0") = some 0 ∧
          oneOf? modeWords d (.scalar none style "BestEffort") = some .bestEffort ∧
          selector? d (.mapping []) = some ∅ ∧
          oneOf? actionWords d (.scalar none style "Must") = some .must := by
  refine ⟨fun d root => ⟨?pod, ?policy⟩, fun d => ⟨?flawedPod, ?flawedPolicy⟩, defaults_read⟩
  case pod =>
    intro restates
    exact (reads_pod d).restated_all restates
  case policy =>
    intro restates
    exact (reads_policy d).restated_all restates
  case flawedPod =>
    intro flawed
    exact (reads_pod d).flawed flawed
  case flawedPolicy =>
    intro flawed
    exact (reads_policy d).flawed flawed

/-! ### Objects in few and in many words -/

/-- What restates a field, in any number of changes, restates the mapping. -/
theorem restates_inside {key value' : Yaml.Node} {presence : Presence}
    (named : text? d key = some name) (declared : fields.lookup name = some (presence, shape))
    (restates : Relation.ReflTransGen (Restates d shape) value value') :
    Relation.ReflTransGen (Restates d (.struct fields)) (.mapping ((key, value) :: entries))
      (.mapping ((key, value') :: entries)) := by
  induction restates with
  | refl => exact .refl
  | tail _ last ih => exact ih.tail (.inside rfl rfl named declared last)

/-- A plain scalar. -/
def word (text : String) : Yaml.Node :=
  .scalar none .plain text

/-- A mapping with plain keys. -/
def mappingOf (entries : List (String × Yaml.Node)) : Yaml.Node :=
  .mapping (entries.map fun entry => (word entry.1, entry.2))

/-- The document of a policy that has no more than it must. -/
def terse : Document :=
  .ofNode (mappingOf
    [("metadata", mappingOf [("name", word "web")]),
     ("spec", mappingOf [("policy", mappingOf [("targetSize", word "2")])])])

/-- A policy with fields that are not read. -/
def wordyRoot (spec : Yaml.Node) : Yaml.Node :=
  mappingOf [("spec", spec), ("kind", word "PlacementPolicy"),
    ("metadata", mappingOf [("name", word "web")])]

/-- What is specified for a policy, with a default. -/
def wordySpec (body : Yaml.Node) : Yaml.Node :=
  mappingOf [("policy", body), ("weight", word "0")]

/-- An action and a target, with a default and a field that is not read. -/
def wordyBody : Yaml.Node :=
  mappingOf [("status", .sequence [.alias 7]), ("action", word "Must"), ("targetSize", word "2")]

/-- A policy with two names. -/
def stuttering : Document :=
  .ofNode (mappingOf
    [("metadata", mappingOf [("name", word "web"), ("name", word "web")]),
     ("spec", mappingOf [("policy", mappingOf [("targetSize", word "2")])])])

theorem restates_wordyRoot (spec : Yaml.Node) :
    Relation.ReflTransGen (Restates terse (policyShape terse))
      (mappingOf [("metadata", mappingOf [("name", word "web")]), ("spec", spec)])
      (wordyRoot spec) := by
  have more : Restates terse (policyShape terse)
      (mappingOf [("metadata", mappingOf [("name", word "web")]), ("spec", spec)])
      (mappingOf [("kind", word "PlacementPolicy"), ("metadata", mappingOf [("name", word "web")]),
        ("spec", spec)]) := .extended rfl rfl rfl rfl
  exact .head more (.single (.reordered rfl rfl (.trans (.cons _ (.swap _ _ _)) (.swap _ _ _))))

theorem restates_wordySpec (body : Yaml.Node) :
    Relation.ReflTransGen (Restates terse (specShape terse)) (mappingOf [("policy", body)])
      (wordySpec body) := by
  have other : text? terse (word "policy") ≠ some "weight" := by decide
  have more : Restates terse (specShape terse) (mappingOf [("policy", body)])
      (mappingOf [("weight", word "0"), ("policy", body)]) :=
    .completed rfl rfl rfl rfl (List.forall_mem_singleton.mpr other) rfl
  exact .head more (.single (.reordered rfl rfl (.swap _ _ _)))

theorem restates_wordyBody :
    Relation.ReflTransGen (Restates terse (bodyShape terse))
      (mappingOf [("targetSize", word "2")]) wordyBody := by
  have other : text? terse (word "targetSize") ≠ some "action" := by decide
  have more : Restates terse (bodyShape terse) (mappingOf [("targetSize", word "2")])
      (mappingOf [("action", word "Must"), ("targetSize", word "2")]) :=
    .completed rfl rfl rfl rfl (List.forall_mem_singleton.mpr other) rfl
  exact .head more (.single (.extended rfl rfl rfl rfl))

theorem restates_wordy : Relation.ReflTransGen (Restates terse (policyShape terse)) terse.root
    (wordyRoot (wordySpec wordyBody)) :=
  (restates_wordyRoot _).trans (restates_inside rfl rfl
    ((restates_wordySpec _).trans (restates_inside rfl rfl restates_wordyBody)))

/-- The document of a pod that has a name and an identifier only. -/
def tersePod : Document :=
  .ofNode (mappingOf [("metadata", mappingOf [("name", word "web"), ("uid", word "u")])])

/-- The same name and identifier, with a default. -/
def wordyMeta : Yaml.Node :=
  mappingOf [("uid", word "u"), ("labels", .mapping []), ("name", word "web")]

/-- The pod with a field that is not read. -/
def wordyPodRoot : Yaml.Node :=
  mappingOf [("status", .sequence [.alias 7]), ("metadata", wordyMeta)]

/-- A pod without a name. -/
def nameless : Document :=
  .ofNode (mappingOf [("metadata", mappingOf [("uid", word "u")])])

theorem restates_wordyMeta :
    Relation.ReflTransGen (Restates tersePod (metaShape tersePod))
      (mappingOf [("name", word "web"), ("uid", word "u")]) wordyMeta := by
  have omitted : ∀ entry ∈ [(word "name", word "web"), (word "uid", word "u")],
      text? tersePod entry.1 ≠ some "labels" :=
    List.forall_mem_cons.mpr ⟨by decide, List.forall_mem_singleton.mpr (by decide)⟩
  have more : Restates tersePod (metaShape tersePod)
      (mappingOf [("name", word "web"), ("uid", word "u")])
      (mappingOf [("labels", .mapping []), ("name", word "web"), ("uid", word "u")]) :=
    .completed rfl rfl rfl rfl omitted rfl
  exact .head more (.single (.reordered rfl rfl (.trans (.cons _ (.swap _ _ _)) (.swap _ _ _))))

theorem restates_wordyPod :
    Relation.ReflTransGen (Restates tersePod (podShape tersePod)) tersePod.root wordyPodRoot :=
  (restates_inside rfl rfl restates_wordyMeta).tail (.extended rfl rfl rfl rfl)

/-- In many words the policy and the pod are the same; with two names there is no policy, and
without one there is no pod. -/
theorem read_by_fields_wordy :
    policy? { terse with root := wordyRoot (wordySpec wordyBody) } = policy? terse ∧
      policy? terse = some { name := "web", target := .count 2 } ∧ policy? stuttering = none ∧
      pod? { tersePod with root := wordyPodRoot } = pod? tersePod ∧
      pod? tersePod = some { name := "web", uid := "u" } ∧ pod? nameless = none := by
  have twice : Flawed stuttering (policyShape stuttering) stuttering.root :=
    .inside rfl (.head _) rfl rfl (.repeated rfl (List.Sublist.refl _) rfl rfl rfl)
  have omitted : ∀ entry ∈ [(word "uid", word "u")], text? nameless entry.1 ≠ some "name" :=
    List.forall_mem_singleton.mpr (by decide)
  have missing : Flawed nameless (podShape nameless) nameless.root :=
    .inside rfl (.head _) rfl rfl (.lacking rfl rfl omitted)
  exact ⟨(read_by_fields.1 terse _).2 restates_wordy, by decide +kernel,
    (read_by_fields.2.1 stuttering).2 twice, (read_by_fields.1 tersePod _).1 restates_wordyPod,
    by decide +kernel, (read_by_fields.2.1 nameless).1 missing⟩

end Placement.Manifest
