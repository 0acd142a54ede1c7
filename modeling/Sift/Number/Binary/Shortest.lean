import Sift.Number.Binary

/-!
The shortest decimal of a floating point number. The decimals that read back as the number fill an
interval around it. On each grid of decimals, from coarse to fine, only the two neighbours of the
number need to be tried; the first grid with a neighbour in the interval wins, and of two the
nearer, or at the same distance the greater. The text has no exponent.
-/

namespace Sift.Number.Binary

variable {f : BinaryFormat}

/-- A positive number with the interval of what rounds to it, over one denominator. -/
structure Interval where
  low : Nat
  value : Nat
  high : Nat
  den : Nat
  closed : Bool

/-- The interval reaches half way to the neighbours, and the one below a power of two is nearer. -/
def interval (x : Binary f) : Interval :=
  let (m, q) := x.parts
  let below := if m = Nat.pow 2 f.fractionBits then 1 else 2
  let up := Nat.pow 2 (q - 2).toNat
  ⟨(4 * m - below) * up, 4 * m * up, (4 * m + 2) * up, Nat.pow 2 (2 - q).toNat, m % 2 = 0⟩

namespace Interval

/-- A decimal of the grid, as a multiple of `10 ^ k`, that lies in the interval. -/
def neighbour? (i : Interval) (k : Int) : Option Nat :=
  let scale := Nat.pow 10 (-k).toNat
  let unit := i.den * Nat.pow 10 k.toNat
  let d := i.value * scale / unit
  let inside (a b : Nat) : Bool := a < b || (i.closed && a = b)
  let down := inside (i.low * scale) (d * unit)
  let up := inside ((d + 1) * unit) (i.high * scale)
  if down && up then
    if unit ≤ 2 * (i.value * scale - d * unit) then some (d + 1) else some d
  else if down then some d
  else if up then some (d + 1)
  else none

/-- The first grid from `10 ^ k` down that has a neighbour in the interval. -/
def search (i : Interval) : Nat → Int → Nat × Int
  | 0, k => (i.value * Nat.pow 10 (-k).toNat / (i.den * Nat.pow 10 k.toNat), k)
  | fuel + 1, k => match i.neighbour? k with
    | some d => (d, k)
    | none => i.search fuel (k - 1)

end Interval

/-- The digits of a positive number and the power of ten of the last one. The search begins above
the leading digit and takes no more steps than the significand has bits. -/
def shortest (x : Binary f) : Nat × Int :=
  let (m, q) := x.parts
  let leading : Int := ((m.log2 : Int) + q) * 30103 / 100000
  x.interval.search (f.fractionBits + 1) (leading + 2)

/-- The decimal `d * 10 ^ k` without an exponent. -/
def positional (d : Nat) (k : Int) : List Char :=
  let ds := Nat.toDigits 10 d
  let places := (-k).toNat
  let whole := ds.length - places
  if 0 ≤ k then ds ++ List.replicate k.toNat '0'
  else if 0 < whole then ds.take whole ++ '.' :: ds.drop whole
  else '0' :: '.' :: List.replicate (places - ds.length) '0' ++ ds

def digits (x : Binary f) : List Char :=
  let sign := if x.negative then ['-'] else []
  if x.isNaN then "NaN".toList
  else if x.isInfinite then sign ++ "inf".toList
  else if x.magnitude = 0 then sign ++ ['0']
  else let (d, k) := x.shortest
    sign ++ positional d k

end Sift.Number.Binary
