import Placement.Manifest.Reading

/-!
# Changes in the store

The store tells of every change with the value after it and the value before it, as
far as it has them.

## Main definitions

* `KeyValue` — a pair of the store, and the objects that its value may describe.
* `Event` — a change of a pair.
-/

namespace Placement.Watch

/-- A key of the store and its value. -/
structure KeyValue where
  key : ByteArray
  value : ByteArray

/-- The policy that a pair of the store holds. -/
def KeyValue.policy? (pair : KeyValue) : Option Policy :=
  Manifest.readPolicy pair.value

/-- The pod that a pair of the store holds. -/
def KeyValue.pod? (pair : KeyValue) : Option Pod :=
  Manifest.readPod pair.value

/-- The kinds of change. -/
inductive Change where
  | put
  | delete
  deriving DecidableEq

/-- A change in the store. -/
structure Event where
  change : Change
  /-- The pair after the change; of one that is gone only the key matters. -/
  now : Option KeyValue := none
  /-- The pair before the change. -/
  before : Option KeyValue := none

end Placement.Watch
