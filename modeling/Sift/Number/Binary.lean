/-!
Floating point numbers as bit patterns of a binary interchange format. Only comparison needs their
order, and the order is that of integers read off the pattern: `place` for numbers, where the two
zeros share a place, and `rank` for patterns, where each has its own.
-/

namespace Sift.Number

structure BinaryFormat where
  exponentBits : Nat
  fractionBits : Nat

namespace BinaryFormat

def single : BinaryFormat := ⟨8, 23⟩

def double : BinaryFormat := ⟨11, 52⟩

/-- The bits besides the sign. -/
def magnitudeBits (f : BinaryFormat) : Nat := f.exponentBits + f.fractionBits

/-- The pattern of infinity without its sign; the patterns above it are no numbers. -/
def infinity (f : BinaryFormat) : Nat := (Nat.pow 2 f.exponentBits - 1) * Nat.pow 2 f.fractionBits

/-- The smallest positive number is two to this power. -/
def leastExponent (f : BinaryFormat) : Int :=
  2 - Nat.pow 2 (f.exponentBits - 1) - f.fractionBits

end BinaryFormat

structure Binary (f : BinaryFormat) where
  bits : BitVec (f.magnitudeBits + 1)
  deriving DecidableEq

abbrev Binary32 := Binary .single

abbrev Binary64 := Binary .double

namespace Binary

variable {f : BinaryFormat}

def negative (x : Binary f) : Bool := x.bits.msb

def magnitude (x : Binary f) : Nat := x.bits.toNat % Nat.pow 2 f.magnitudeBits

def ofMagnitude (f : BinaryFormat) (negative : Bool) (magnitude : Nat) : Binary f :=
  ⟨.ofNat _ ((if negative then Nat.pow 2 f.magnitudeBits else 0) + magnitude)⟩

def isNaN (x : Binary f) : Bool := f.infinity < x.magnitude

def isInfinite (x : Binary f) : Bool := x.magnitude = f.infinity

def isZero (x : Binary f) : Bool := x.magnitude = 0

/-- The same pattern, or zeros of any sign; what is no number is the same as nothing. -/
def sameNumber (x y : Binary f) : Bool :=
  !x.isNaN && !y.isNaN && (x == y || x.isZero && y.isZero)

/-- Where a number lies among the numbers. -/
def place (x : Binary f) : Int := if x.negative then -x.magnitude else x.magnitude

/-- Where a pattern lies among all patterns. -/
def rank (x : Binary f) : Int := if x.negative then -x.magnitude - 1 else x.magnitude

/-- The order of numbers; what is no number has none. -/
def compareNumbers (x y : Binary f) : Option Ordering :=
  if x.isNaN || y.isNaN then none else some (compare x.place y.place)

/-- The order of patterns. -/
def compareRanks (x y : Binary f) : Ordering := compare x.rank y.rank

/-- The significand and the power of two that it multiplies. -/
def parts (x : Binary f) : Nat × Int :=
  let fraction := x.magnitude % Nat.pow 2 f.fractionBits
  let exponent := x.magnitude / Nat.pow 2 f.fractionBits
  if exponent = 0 then (fraction, f.leastExponent)
  else (fraction + Nat.pow 2 f.fractionBits, f.leastExponent + (exponent - 1 : Nat))

end Binary

end Sift.Number
