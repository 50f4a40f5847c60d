/-!
# Keys of policies

In the store a policy has a key of three parts: a prefix common to all, its
namespace, and its name after a slash.

## Main definitions

* `policyKey` — the key of a policy.
* `parsePolicyKey` — the namespace and the name that a key tells.
-/

namespace Placement.Watch

/-- The key of a policy. -/
def policyKey (start ns name : String) : String :=
  start ++ ns ++ "/" ++ name

/-- The namespace and the name that are joined by a slash.  Neither may be empty or
hold a slash. -/
def splitName (text : List Char) : Option (String × String) :=
  let ns := text.takeWhile (· ≠ '/')
  match text.dropWhile (· ≠ '/') with
  | _ :: name =>
    if ns = [] ∨ name = [] ∨ name.contains '/' then none
    else some (String.ofList ns, String.ofList name)
  | [] => none

/-- The namespace and the name that a key tells, if it begins with `start`. -/
def parsePolicyKey (key start : String) : Option (String × String) :=
  (start.toList.isPrefixOf? key.toList).bind splitName

end Placement.Watch
