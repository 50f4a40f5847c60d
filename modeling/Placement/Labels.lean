import Std.Data.ExtTreeMap

/-!
# Labels

A label map binds each key once.  The same type serves for the labels an object
carries and for the labels a selector asks for.

## Main definitions

* `Labels` — a finite map from keys to values, compared by content.
* `Labels.Includes` — every required binding is present.
* `Labels.satisfies` — the test for it, which refuses by size first.
-/

namespace Placement

/-- The labels of an object, or those a selector requires. -/
abbrev Labels := Std.ExtTreeMap String String

namespace Labels

/-- Every binding of `required` is a binding of `actual`. -/
def Includes (actual required : Labels) : Prop :=
  ∀ (key value : String), required[key]? = some value → actual[key]? = some value

/-- Whether `actual` holds every binding of `required`.  A map with fewer
bindings than are required is refused without looking at any of them. -/
def satisfies (actual required : Labels) : Bool :=
  if actual.size < required.size then false
  else required.all fun key value => actual[key]? == some value

end Labels

end Placement
