/-!
Decimal digits, and the integers written with them: an optional sign, then at least one digit.
-/

namespace Sift.Number

/-- The number that a row of digits stands for. -/
def ofDigits (cs : List Char) : Nat := Nat.ofDigitChars 10 cs 0

def leadingDigits (cs : List Char) : List Char := cs.takeWhile Char.isDigit

def afterDigits (cs : List Char) : List Char := cs.dropWhile Char.isDigit

def readNat (cs : List Char) : Option Nat :=
  if cs ≠ [] ∧ cs.all Char.isDigit then some (ofDigits cs) else none

def readInt : List Char → Option Int
  | '-' :: cs => (readNat cs).map fun n => -n
  | '+' :: cs => (readNat cs).map fun n => n
  | cs => (readNat cs).map fun n => n

def readInt32 (cs : List Char) : Option Int32 := do
  let n ← readInt cs
  if h : Int32.minValue.toInt ≤ n ∧ n ≤ Int32.maxValue.toInt then
    some (.ofIntLE n h.1 h.2)
  else none

def readInt64 (cs : List Char) : Option Int64 := do
  let n ← readInt cs
  if h : Int64.minValue.toInt ≤ n ∧ n ≤ Int64.maxValue.toInt then
    some (.ofIntLE n h.1 h.2)
  else none

/-- The digits of a number, with zeros in front up to a width. -/
def padded (width n : Nat) : List Char :=
  let ds := Nat.toDigits 10 n
  List.replicate (width - ds.length) '0' ++ ds

/-- The digits of an integer, behind a minus sign if it is negative. -/
def intDigits (n : Int) : List Char :=
  if n < 0 then '-' :: Nat.toDigits 10 n.natAbs else Nat.toDigits 10 n.natAbs

end Sift.Number
