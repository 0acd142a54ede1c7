import Sift.Error
import Sift.Text.Quoted

/-!
What a request asks for: filter criteria, sort criteria, and the request that carries both. A
criterion names its field by a key, and keys are the same if they agree without blanks around them
and in small letters.
-/

namespace Sift

/-- The form of a key under which it is looked up. -/
def normalKey (key : String) : String := Text.lower (Text.trim key)

structure FilterCriterion where
  field : String
  operator : Operator
  value : String := ""
  deriving DecidableEq

namespace FilterCriterion

def targets (c : FilterCriterion) (key : String) : Bool := normalKey c.field == normalKey key

def hasValue (c : FilterCriterion) : Bool := c.value ≠ ""

def written (c : FilterCriterion) : String :=
  s!"{c.field} {c.operator.name} {Text.quoted c.value}"

end FilterCriterion

inductive SortDirection
  | ascending
  | descending
  deriving DecidableEq

namespace SortDirection

def name : SortDirection → String
  | ascending => "asc"
  | descending => "desc"

/-- The short and the long names, in any case and with blanks around them. -/
def ofName (s : String) : Except Error SortDirection :=
  let n := normalKey s
  if n = "asc" ∨ n = "ascending" then .ok ascending
  else if n = "desc" ∨ n = "descending" then .ok descending
  else .error (.argument "direction" s!"invalid sort direction '{s}'")

theorem ofName_name (d : SortDirection) : ofName d.name = .ok d := by cases d <;> rfl

def flip : SortDirection → SortDirection
  | ascending => descending
  | descending => ascending

end SortDirection

structure SortCriterion where
  field : String
  direction : SortDirection := .ascending
  deriving DecidableEq

structure Request where
  filters : List FilterCriterion := []
  sorts : List SortCriterion := []
  deriving DecidableEq

namespace Request

def filter (r : Request) (c : FilterCriterion) : Request := { r with filters := r.filters ++ [c] }

def sort (r : Request) (c : SortCriterion) : Request := { r with sorts := r.sorts ++ [c] }

end Request

end Sift
