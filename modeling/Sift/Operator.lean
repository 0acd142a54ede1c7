import Sift.Scalar.Kind
import Sift.Text.Blank
import Sift.Text.Case

/-!
The filter operators, their classes, and which of them a field of each kind allows.
-/

namespace Sift

inductive Operator
  | equals
  | notEquals
  | lessThan
  | lessThanOrEqual
  | greaterThan
  | greaterThanOrEqual
  | startsWith
  | endsWith
  | contains
  | notContains
  | isEmpty
  | isNotEmpty
  | isNull
  | isNotNull
  | oneOf
  | noneOf
  | between
  | notBetween
  | isEqualToYear
  | isEqualToYearAndMonth
  | isEqualToFullDate
  | isBefore
  | isAfter
  deriving DecidableEq

inductive OperatorClass
  | comparison
  | textual
  | structural
  | set
  | range
  | granularity
  deriving DecidableEq

def OperatorClass.name : OperatorClass → String
  | comparison => "Comparison"
  | textual => "Textual"
  | structural => "Structural"
  | set => "Set"
  | range => "Range"
  | granularity => "Granularity"

namespace Operator

def all : List Operator :=
  [equals, notEquals, lessThan, lessThanOrEqual, greaterThan, greaterThanOrEqual, startsWith,
   endsWith, contains, notContains, isEmpty, isNotEmpty, isNull, isNotNull, oneOf, noneOf, between,
   notBetween, isEqualToYear, isEqualToYearAndMonth, isEqualToFullDate, isBefore, isAfter]

def name : Operator → String
  | equals => "Equals"
  | notEquals => "NotEquals"
  | lessThan => "LessThan"
  | lessThanOrEqual => "LessThanOrEqual"
  | greaterThan => "GreaterThan"
  | greaterThanOrEqual => "GreaterThanOrEqual"
  | startsWith => "StartsWith"
  | endsWith => "EndsWith"
  | contains => "Contains"
  | notContains => "NotContains"
  | isEmpty => "IsEmpty"
  | isNotEmpty => "IsNotEmpty"
  | isNull => "IsNull"
  | isNotNull => "IsNotNull"
  | oneOf => "In"
  | noneOf => "NotIn"
  | between => "Between"
  | notBetween => "NotBetween"
  | isEqualToYear => "IsEqualToYear"
  | isEqualToYearAndMonth => "IsEqualToYearAndMonth"
  | isEqualToFullDate => "IsEqualToFullDate"
  | isBefore => "IsBefore"
  | isAfter => "IsAfter"

/-- The operator of a name, whatever its ASCII case and the blanks around it. -/
def ofName? (s : String) : Option Operator :=
  all.find? fun op => Text.sameAscii op.name (Text.trim s)

def toClass : Operator → OperatorClass
  | equals | notEquals | lessThan | lessThanOrEqual | greaterThan | greaterThanOrEqual
  | isBefore | isAfter => .comparison
  | startsWith | endsWith | contains | notContains => .textual
  | isEmpty | isNotEmpty | isNull | isNotNull => .structural
  | oneOf | noneOf => .set
  | between | notBetween => .range
  | isEqualToYear | isEqualToYearAndMonth | isEqualToFullDate => .granularity

/-- The operator asks about the value itself and needs no operand. -/
def isStructural (op : Operator) : Bool := op.toClass = .structural

theorem mem_all (op : Operator) : op ∈ all := by cases op <;> decide

theorem ofName?_name (op : Operator) : ofName? op.name = some op := by
  cases op <;> decide +kernel

end Operator

/-! The catalog -/

def stringOperators : List Operator :=
  [.equals, .notEquals, .startsWith, .endsWith, .contains, .notContains, .isEmpty, .isNotEmpty,
   .isNull, .isNotNull, .oneOf, .noneOf]

def booleanOperators : List Operator := [.equals, .notEquals, .isNull, .isNotNull]

def numericOperators : List Operator :=
  [.equals, .notEquals, .lessThan, .lessThanOrEqual, .greaterThan, .greaterThanOrEqual, .isNull,
   .isNotNull, .oneOf, .noneOf, .between, .notBetween]

def temporalOperators : List Operator :=
  [.equals, .notEquals, .lessThan, .lessThanOrEqual, .greaterThan, .greaterThanOrEqual, .isNull,
   .isNotNull, .between, .notBetween, .isEqualToYear, .isEqualToYearAndMonth, .isEqualToFullDate,
   .isBefore, .isAfter]

namespace Kind

/-- The operators of a kind, in the order in which a refusal lists them. -/
def operators : Kind → List Operator
  | string => stringOperators
  | boolean => booleanOperators
  | integer | long | fixedPoint | float32 | float64 => numericOperators
  | date | dateWithOffset => temporalOperators

def allows (k : Kind) (op : Operator) : Bool := op ∈ k.operators

end Kind

end Sift
