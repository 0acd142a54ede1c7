import Sift.Scalar.Kind
import Sift.Number.Fixed
import Sift.Number.Binary
import Sift.Calendar.DateTime

/-!
Scalar values, and three ways to compare them: `same` is equality as values, `compare?` the order
of values that predicates ask for, and `totalCompare` the order of sorting, which puts null first
and tells apart what no predicate can.
-/

namespace Sift

open Sift.Number Sift.Calendar

inductive Scalar
  | null
  | string (s : String)
  | boolean (b : Bool)
  | integer (n : Int32)
  | long (n : Int64)
  | fixedPoint (d : Fixed)
  | float32 (x : Binary32)
  | float64 (x : Binary64)
  | date (t : DateTime)
  | dateWithOffset (t : OffsetDateTime)
  deriving DecidableEq

namespace Scalar

def kind? : Scalar → Option Kind
  | null => none
  | string _ => some .string
  | boolean _ => some .boolean
  | integer _ => some .integer
  | long _ => some .long
  | fixedPoint _ => some .fixedPoint
  | float32 _ => some .float32
  | float64 _ => some .float64
  | date _ => some .date
  | dateWithOffset _ => some .dateWithOffset

def isNull : Scalar → Bool
  | null => true
  | _ => false

def text? : Scalar → Option String
  | string s => some s
  | _ => none

/-- The order of two values of one kind. Null and what is no number have no order. -/
def compare? : Scalar → Scalar → Option Ordering
  | string a, string b => some (compare a b)
  | boolean a, boolean b => some (compare a b)
  | integer a, integer b => some (compare a b)
  | long a, long b => some (compare a b)
  | fixedPoint a, fixedPoint b => some (compare a b)
  | float32 a, float32 b => a.compareNumbers b
  | float64 a, float64 b => a.compareNumbers b
  | date a, date b => some (compare a b)
  | dateWithOffset a, dateWithOffset b => some (compare a b)
  | _, _ => none

/-- Where a value stands among values of other kinds. -/
def kindRank (v : Scalar) : Nat := (v.kind?.map Kind.rank).getD 0

/-- Null first, floating point numbers by pattern, values of one kind in their order, and values of
different kinds by kind. -/
def totalCompare : Scalar → Scalar → Ordering
  | null, null => .eq
  | null, _ => .lt
  | _, null => .gt
  | float32 a, float32 b => a.compareRanks b
  | float64 a, float64 b => a.compareRanks b
  | a, b => (a.compare? b).getD (compare a.kindRank b.kindRank)

/-- Equality as values: decimals of any scale, instants of any offset; what is no number equals
nothing. -/
def same : Scalar → Scalar → Bool
  | null, null => true
  | string a, string b => a == b
  | boolean a, boolean b => a == b
  | integer a, integer b => a == b
  | long a, long b => a == b
  | fixedPoint a, fixedPoint b => a.units == b.units
  | float32 a, float32 b => a.sameNumber b
  | float64 a, float64 b => a.sameNumber b
  | date a, date b => a == b
  | dateWithOffset a, dateWithOffset b => a.sameInstant b
  | _, _ => false

end Scalar

end Sift
