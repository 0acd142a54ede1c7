import Sift.Number.Binary
import Sift.Number.Digits

/-!
Reading floating point numbers. A decimal of any length is taken at its exact value and rounded
once, to the nearest pattern, a tie going to the even one.
-/

namespace Sift.Number.Binary

/-- The quotient rounded to the nearest integer, a tie to the even one. -/
def roundedQuotient (num den : Nat) : Nat :=
  let q := num / den
  let r := num % den
  if 2 * r < den then q
  else if den < 2 * r then q + 1
  else if q % 2 = 0 then q else q + 1

/-- The greatest power of two that is not above `num / den`. -/
def floorLog2 (num den : Nat) : Int :=
  let guess : Int := (num.log2 : Int) - den.log2
  if num * Nat.pow 2 (-guess).toNat < den * Nat.pow 2 guess.toNat then guess - 1 else guess

/-- The pattern nearest to `num / den`. -/
def nearestRatio (f : BinaryFormat) (num den : Nat) : Nat :=
  let q := max f.leastExponent (floorLog2 num den - f.fractionBits)
  let m := roundedQuotient (num * Nat.pow 2 (-q).toNat) (den * Nat.pow 2 q.toNat)
  min f.infinity ((q - f.leastExponent).toNat * Nat.pow 2 f.fractionBits + m)

/-- The pattern nearest to `m * 10 ^ e`. A decimal whose first digit stands far outside the range
of the format needs no division: ten is more than eight, so three binary places are less than one
decimal place. -/
def nearestDecimal (f : BinaryFormat) (m : Nat) (e : Int) : Nat :=
  let position : Int := (Nat.toDigits 10 m).length + e
  if m = 0 then 0
  else if Nat.pow 2 (f.exponentBits - 1) ≤ 3 * (position - 1) then f.infinity
  else if 3 * position < f.leastExponent - 1 then 0
  else nearestRatio f (m * Nat.pow 10 e.toNat) (Nat.pow 10 (-e).toNat)

def readPower : List Char → Option Int
  | [] => some 0
  | c :: cs => if c = 'e' || c = 'E' then readInt cs else none

/-- The coefficient and the power of ten of a decimal without sign. -/
def readDecimal (cs : List Char) : Option (Nat × Int) :=
  let whole := leadingDigits cs
  let (places, rest) := match afterDigits cs with
    | '.' :: r => (leadingDigits r, afterDigits r)
    | r => ([], r)
  if whole ++ places = [] then none
  else (readPower rest).map fun e => (ofDigits (whole ++ places), e - places.length)

/-- The names of the values that digits cannot write, in any case. -/
def readMagnitude (f : BinaryFormat) (cs : List Char) : Option Nat :=
  let name := cs.map Char.toLower
  if name = "inf".toList || name = "infinity".toList then some f.infinity
  else if name = "nan".toList then some (f.infinity + Nat.pow 2 (f.fractionBits - 1))
  else (readDecimal cs).map fun (m, e) => nearestDecimal f m e

def read (f : BinaryFormat) : List Char → Option (Binary f)
  | '-' :: cs => (readMagnitude f cs).map (ofMagnitude f true)
  | '+' :: cs => (readMagnitude f cs).map (ofMagnitude f false)
  | cs => (readMagnitude f cs).map (ofMagnitude f false)

end Sift.Number.Binary
