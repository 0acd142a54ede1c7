import Sift.Error
import Sift.Predicate
import Sift.Scalar.Operand
import Sift.Text.Split

/-!
The predicate of one criterion: an operator and the text of its operand, on a registered field.
Each family of kinds has its own operators. A negation stands inside the guard against null, so
that null satisfies no operator but the test for null.
-/

namespace Sift

variable {ε : Type}

/-- What a range operand with the wrong number of values is told. -/
def rangeReason (separator : Char) (count : Nat) : String :=
  s!"range needs exactly 2 values separated by '{separator}', got {count}"

namespace Mapping

def readOperand (m : Mapping ε) (raw : String) : Except Error Scalar :=
  match Scalar.read m.kind raw with
  | some v => .ok v
  | none => .error (.unreadable m.key raw m.kind)

def readList (m : Mapping ε) (c : Config) (raw : String) : Except Error (List Scalar) :=
  (Text.splitList c.listSeparator raw).mapM m.readOperand

/-- Both ends of a range. The number of tokens is looked at before the tokens. -/
def readRange (m : Mapping ε) (c : Config) (raw : String) : Except Error (Scalar × Scalar) :=
  match Text.splitRange c.listSeparator raw with
  | [low, high] => do
    let low ← m.readOperand low
    let high ← m.readOperand high
    return (low, high)
  | tokens => .error (.argument m.key (rangeReason c.listSeparator tokens.length))

def compare (m : Mapping ε) (op : CompareOp) (raw : String) : Except Error (Predicate ε) :=
  (m.readOperand raw).map (.compare m.ref op)

def within (m : Mapping ε) (c : Config) (raw : String) : Except Error (Predicate ε) :=
  (m.readRange c raw).map fun (low, high) => .within m.ref low high

def oneOf (m : Mapping ε) (c : Config) (raw : String) : Except Error (Predicate ε) :=
  (m.readList c raw).map fun vs => .any (vs.map (.compare m.ref .eq))

def datePart (m : Mapping ε) (g : Granularity) (raw : String) : Except Error (Predicate ε) :=
  (m.readOperand raw).map (.datePart m.ref g)

/-- The test for null; on a field that is never null it is decided here. -/
def nullCheck (m : Mapping ε) (expected : Bool) : Predicate ε :=
  match m.nullable, expected with
  | true, true => .isNull m.ref
  | true, false => .isNotNull m.ref
  | false, true => .never
  | false, false => .always

/-- Null is kept out of a field that may be null. -/
def guarded (m : Mapping ε) (p : Predicate ε) : Predicate ε :=
  if m.nullable then (Predicate.isNotNull m.ref).and p else p

def unsupported (m : Mapping ε) (op : Operator) : Error :=
  .unsupportedOperator m.kind op m.kind.operators

def text (m : Mapping ε) (c : Config) (op : TextOp) (raw : String) : Predicate ε :=
  .text m.ref op (c.textMatching.fold raw) c.textMatching

def textOneOf (m : Mapping ε) (c : Config) (raw : String) : Predicate ε :=
  .any ((Text.splitList c.listSeparator raw).map (m.text c .equals))

def textFragment (m : Mapping ε) (c : Config) (raw : String) :
    Operator → Except Error (Predicate ε)
  | .isNull => .ok (m.nullCheck true)
  | .isNotNull => .ok (m.nullCheck false)
  | .equals => .ok (m.guarded (m.text c .equals raw))
  | .notEquals => .ok (m.guarded (m.text c .equals raw).negate)
  | .contains => .ok (m.guarded (m.text c .contains raw))
  | .notContains => .ok (m.guarded (m.text c .contains raw).negate)
  | .startsWith => .ok (m.guarded (m.text c .startsWith raw))
  | .endsWith => .ok (m.guarded (m.text c .endsWith raw))
  | .isEmpty => .ok (m.guarded (.compare m.ref .eq (.string "")))
  | .isNotEmpty => .ok (m.guarded (.compare m.ref .ne (.string "")))
  | .oneOf => .ok (m.guarded (m.textOneOf c raw))
  | .noneOf => .ok (m.guarded (m.textOneOf c raw).negate)
  | op => .error (m.unsupported op)

def booleanFragment (m : Mapping ε) (raw : String) : Operator → Except Error (Predicate ε)
  | .isNull => .ok (m.nullCheck true)
  | .isNotNull => .ok (m.nullCheck false)
  | .equals => (m.compare .eq raw).map m.guarded
  | .notEquals => (m.compare .ne raw).map m.guarded
  | op => .error (m.unsupported op)

def numericFragment (m : Mapping ε) (c : Config) (raw : String) :
    Operator → Except Error (Predicate ε)
  | .isNull => .ok (m.nullCheck true)
  | .isNotNull => .ok (m.nullCheck false)
  | .equals => (m.compare .eq raw).map m.guarded
  | .notEquals => (m.compare .ne raw).map m.guarded
  | .lessThan => (m.compare .lt raw).map m.guarded
  | .lessThanOrEqual => (m.compare .le raw).map m.guarded
  | .greaterThan => (m.compare .gt raw).map m.guarded
  | .greaterThanOrEqual => (m.compare .ge raw).map m.guarded
  | .between => (m.within c raw).map m.guarded
  | .notBetween => (m.within c raw).map fun p => m.guarded p.negate
  | .oneOf => (m.oneOf c raw).map m.guarded
  | .noneOf => (m.oneOf c raw).map fun p => m.guarded p.negate
  | op => .error (m.unsupported op)

def temporalFragment (m : Mapping ε) (c : Config) (raw : String) :
    Operator → Except Error (Predicate ε)
  | .isNull => .ok (m.nullCheck true)
  | .isNotNull => .ok (m.nullCheck false)
  | .equals => (m.compare .eq raw).map m.guarded
  | .notEquals => (m.compare .ne raw).map m.guarded
  | .lessThan | .isBefore => (m.compare .lt raw).map m.guarded
  | .lessThanOrEqual => (m.compare .le raw).map m.guarded
  | .greaterThan | .isAfter => (m.compare .gt raw).map m.guarded
  | .greaterThanOrEqual => (m.compare .ge raw).map m.guarded
  | .between => (m.within c raw).map m.guarded
  | .notBetween => (m.within c raw).map fun p => m.guarded p.negate
  | .isEqualToYear => (m.datePart .year raw).map m.guarded
  | .isEqualToYearAndMonth => (m.datePart .yearAndMonth raw).map m.guarded
  | .isEqualToFullDate => (m.datePart .fullDate raw).map m.guarded
  | op => .error (m.unsupported op)

/-- The catalog is asked first; the operand is not looked at unless it allows the operator. -/
def fragment (m : Mapping ε) (c : Config) (op : Operator) (raw : String) :
    Except Error (Predicate ε) := do
  m.kind.check op
  match m.kind with
  | .string => m.textFragment c raw op
  | .boolean => m.booleanFragment raw op
  | .integer | .long | .fixedPoint | .float32 | .float64 => m.numericFragment c raw op
  | .date | .dateWithOffset => m.temporalFragment c raw op

end Mapping

end Sift
