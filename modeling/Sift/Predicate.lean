import Sift.Config
import Sift.Field
import Sift.Text.Search

/-!
Predicates on entities: trees of conditions on fields. A comparison that is not possible does not
hold, whichever way it asks. `and` keeps conjunctions flat and drops `always`; `negate` keeps
negations from piling up.
-/

namespace Sift

variable {ε : Type}

inductive CompareOp
  | eq
  | ne
  | lt
  | le
  | gt
  | ge
  deriving DecidableEq

namespace CompareOp

def allows : CompareOp → Ordering → Bool
  | eq, o => o == .eq
  | ne, o => o != .eq
  | lt, o => o == .lt
  | le, o => o != .gt
  | gt, o => o == .gt
  | ge, o => o != .lt

def symbol : CompareOp → String
  | eq => "="
  | ne => "!="
  | lt => "<"
  | le => "<="
  | gt => ">"
  | ge => ">="

end CompareOp

inductive TextOp
  | equals
  | contains
  | startsWith
  | endsWith
  deriving DecidableEq

namespace TextOp

def name : TextOp → String
  | equals => "equals"
  | contains => "contains"
  | startsWith => "starts_with"
  | endsWith => "ends_with"

/-- The test of a text against an operand. -/
def test : TextOp → String → String → Bool
  | equals, s, operand => s == operand
  | contains, s, operand => Text.contains s operand
  | startsWith, s, operand => Text.startsWith s operand
  | endsWith, s, operand => Text.endsWith s operand

end TextOp

/-- How much of a date counts. -/
inductive Granularity
  | year
  | yearAndMonth
  | fullDate
  deriving DecidableEq

namespace Granularity

def name : Granularity → String
  | year => "year"
  | yearAndMonth => "year_month"
  | fullDate => "date"

def projectDate (d : Calendar.Date) : Granularity → Int × Nat × Nat
  | year => (d.year, 0, 0)
  | yearAndMonth => (d.year, d.month, 0)
  | fullDate => (d.year, d.month, d.day)

/-- The part that counts, by the wall clock; only dates have it. -/
def project (g : Granularity) : Scalar → Option (Int × Nat × Nat)
  | .date t => some (g.projectDate t.date)
  | .dateWithOffset t => some (g.projectDate t.wall.date)
  | _ => none

end Granularity

inductive Predicate (ε : Type)
  | always
  | never
  | all (parts : List (Predicate ε))
  | any (parts : List (Predicate ε))
  | not (inner : Predicate ε)
  | isNull (field : FieldRef ε)
  | isNotNull (field : FieldRef ε)
  | compare (field : FieldRef ε) (op : CompareOp) (operand : Scalar)
  | text (field : FieldRef ε) (op : TextOp) (operand : String) (matching : TextMatching)
  | within (field : FieldRef ε) (low high : Scalar)
  | datePart (field : FieldRef ε) (granularity : Granularity) (operand : Scalar)

/-! Conditions on the value of a field -/

namespace Scalar

/-- The value compares with the operand, and the comparison is one that the operator allows. -/
def satisfies (v : Scalar) (op : CompareOp) (operand : Scalar) : Bool :=
  (v.compare? operand).any op.allows

/-- The value is a string, and folded it passes the test. -/
def satisfiesText (v : Scalar) (op : TextOp) (operand : String) (matching : TextMatching) : Bool :=
  v.text?.any fun s => op.test (matching.fold s) operand

/-- The value lies between two others, ends included. -/
def isWithin (v low high : Scalar) : Bool := v.satisfies .ge low && v.satisfies .le high

/-- Two dates agree in the part that counts. -/
def agreesIn (v : Scalar) (g : Granularity) (operand : Scalar) : Bool :=
  match g.project v, g.project operand with
  | some a, some b => a == b
  | _, _ => false

end Scalar

namespace Predicate

mutual

def holds : Predicate ε → ε → Bool
  | always, _ => true
  | never, _ => false
  | all ps, e => allHold ps e
  | any ps, e => anyHolds ps e
  | not p, e => !p.holds e
  | isNull f, e => (f.read e).isNull
  | isNotNull f, e => !(f.read e).isNull
  | compare f op v, e => (f.read e).satisfies op v
  | text f op s m, e => (f.read e).satisfiesText op s m
  | within f low high, e => (f.read e).isWithin low high
  | datePart f g v, e => (f.read e).agreesIn g v

def allHold : List (Predicate ε) → ε → Bool
  | [], _ => true
  | p :: ps, e => p.holds e && allHold ps e

def anyHolds : List (Predicate ε) → ε → Bool
  | [], _ => false
  | p :: ps, e => p.holds e || anyHolds ps e

end

theorem allHold_eq_all (ps : List (Predicate ε)) (e : ε) :
    allHold ps e = ps.all (·.holds e) := by
  induction ps with
  | nil => rfl
  | cons p ps ih => simp [allHold, ih]

theorem anyHolds_eq_any (ps : List (Predicate ε)) (e : ε) :
    anyHolds ps e = ps.any (·.holds e) := by
  induction ps with
  | nil => rfl
  | cons p ps ih => simp [anyHolds, ih]

/-- The conjunction of two predicates, as one flat list of conditions. -/
def and : Predicate ε → Predicate ε → Predicate ε
  | always, q => q
  | p, always => p
  | all ps, all qs => all (ps ++ qs)
  | all ps, q => all (ps ++ [q])
  | p, all qs => all (p :: qs)
  | p, q => all [p, q]

def negate : Predicate ε → Predicate ε
  | always => never
  | never => always
  | not p => p
  | p => not p

def isAlways : Predicate ε → Bool
  | always => true
  | _ => false

mutual

/-- The number of conditions on fields. -/
def leafCount : Predicate ε → Nat
  | always | never => 0
  | all ps | any ps => leafCounts ps
  | not p => p.leafCount
  | isNull _ | isNotNull _ | compare .. | text .. | within .. | datePart .. => 1

def leafCounts : List (Predicate ε) → Nat
  | [] => 0
  | p :: ps => p.leafCount + leafCounts ps

end

end Predicate

end Sift
