import Placement.Roster

/-!
# What one scheduling attempt remembers

An attempt carries values from phase to phase under keys.  A value can only be read
back as the kind it was written as.

## Main definitions

* `Decision`, `Stage` — what the placement plugin remembers.
* `CycleState` — the values of an attempt.
* `CycleState.read`, `CycleState.write` — reading as a kind, and writing.
-/

namespace Placement

/-- What was decided for a pod: the policy that governs it, the roster of that
policy, and the key of the pod on it. -/
structure Decision where
  policy : Policy
  roster : Roster
  key : String
  deriving DecidableEq

/-- How far a pod got on its way onto a roster in an attempt. -/
inductive Stage where
  | ungoverned
  /-- A policy was chosen, and the pod is not on its roster yet. -/
  | chosen (decision : Decision)
  | committed (decision : Decision)
  deriving DecidableEq

/-- The kinds of value an attempt can remember. -/
inductive Kind where
  | int
  | bool
  | text
  | stage
  deriving DecidableEq

/-- The values of a kind. -/
def Kind.Value : Kind → Type
  | int => Int
  | bool => Bool
  | text => String
  | stage => Stage

/-- What an attempt remembers: under each key one value, with its kind. -/
structure CycleState where
  cells : Std.ExtTreeMap String ((kind : Kind) × kind.Value) := ∅

namespace CycleState

instance : EmptyCollection CycleState := ⟨{}⟩

instance : Inhabited CycleState := ⟨∅⟩

/-- Remembers a value, in place of what was under the key. -/
def write (state : CycleState) (key : String) (kind : Kind) (value : kind.Value) : CycleState :=
  ⟨state.cells.insert key ⟨kind, value⟩⟩

/-- The value under a key, if there is one and it is of that kind. -/
def read (state : CycleState) (key : String) (kind : Kind) : Option kind.Value :=
  match state.cells[key]? with
  | none => none
  | some ⟨written, value⟩ => if same : written = kind then some (same ▸ value) else none

@[simp] theorem cells_empty : (∅ : CycleState).cells = ∅ := rfl

@[simp] theorem read_empty (key : String) (kind : Kind) :
    (∅ : CycleState).read key kind = none := by
  simp [read]

/-- A value is read back as the kind it was written as, and as no other. -/
theorem read_write (state : CycleState) (key key' : String) (kind kind' : Kind)
    (value : kind.Value) :
    (state.write key kind value).read key' kind' =
      if key = key' then if same : kind = kind' then some (same ▸ value) else none
      else state.read key' kind' := by
  simp only [read, write, Std.ExtTreeMap.getElem?_insert, Std.LawfulEqCmp.compare_eq_iff_eq]
  by_cases h : key = key' <;> simp [h]

@[simp] theorem read_write_self (state : CycleState) (key : String) (kind : Kind)
    (value : kind.Value) : (state.write key kind value).read key kind = some value := by
  simp [read_write]

end CycleState

end Placement
