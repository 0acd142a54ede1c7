/-!
The kinds of scalar values that a field can have.
-/

namespace Sift

inductive Kind
  | string
  | boolean
  | integer
  | long
  | fixedPoint
  | float32
  | float64
  | date
  | dateWithOffset
  deriving DecidableEq

namespace Kind

def all : List Kind :=
  [string, boolean, integer, long, fixedPoint, float32, float64, date, dateWithOffset]

def name : Kind → String
  | string => "string"
  | boolean => "boolean"
  | integer => "integer"
  | long => "long"
  | fixedPoint => "fixed_point"
  | float32 => "float32"
  | float64 => "float64"
  | date => "date"
  | dateWithOffset => "date_with_offset"

def ofName? (s : String) : Option Kind := all.find? (·.name = s)

def isNumeric : Kind → Bool
  | integer | long | fixedPoint | float32 | float64 => true
  | _ => false

def isTemporal : Kind → Bool
  | date | dateWithOffset => true
  | _ => false

/-- The position in `all`, which orders values of different kinds. -/
def rank : Kind → Nat
  | string => 0
  | boolean => 1
  | integer => 2
  | long => 3
  | fixedPoint => 4
  | float32 => 5
  | float64 => 6
  | date => 7
  | dateWithOffset => 8

theorem mem_all (k : Kind) : k ∈ all := by cases k <;> decide

theorem ofName?_name (k : Kind) : ofName? k.name = some k := by cases k <;> rfl

theorem all_getElem?_rank (k : Kind) : all[k.rank]? = some k := by cases k <;> rfl

end Kind

end Sift
