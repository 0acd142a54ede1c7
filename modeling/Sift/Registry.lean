import Sift.Config
import Sift.Criterion
import Sift.Field

/-!
A registry: the fields of an entity type under their keys, and the criteria of one request. Keys
are found through an index, which holds the position of each field under its normal key.
-/

namespace Sift

variable {ε : Type}

/-- Positions under normal keys. -/
abbrev KeyIndex := List (String × Nat)

structure Registry (ε : Type) where
  mappings : List (Mapping ε)
  index : KeyIndex
  filters : List FilterCriterion
  sorts : List SortCriterion
  config : Config

namespace Registry

def isInitialized (r : Registry ε) : Bool := !r.mappings.isEmpty

/-- The field that a key names. -/
def lookup (r : Registry ε) (field : String) : Option (Mapping ε) :=
  (r.index.lookup (normalKey field)).bind fun position => r.mappings[position]?

/-- The criterion has an empty value, and the policy is to skip it. -/
def switchesOff (r : Registry ε) (c : FilterCriterion) : Bool :=
  !c.hasValue && r.config.emptyValue.skips c.operator

end Registry

/-- Enters the keys of fields, numbered from `position`. A key that is in the index already is an
error, which names it as it was registered the second time. -/
def KeyIndex.enter (index : KeyIndex) (position : Nat) : List (Mapping ε) → Except Error KeyIndex
  | [] => .ok index
  | m :: ms =>
    if (index.lookup (normalKey m.key)).isSome then .error (.duplicateField m.key)
    else KeyIndex.enter ((normalKey m.key, position) :: index) (position + 1) ms

end Sift
