import Sift.Number.Digits

/-!
Decimals of fixed point: a coefficient below 2^96 over a power of ten, with at most 28 places after
the point. Scale and sign are kept and printed, a number that was rounded to zero keeps its sign
too, but two decimals are the same number if they agree after bringing both to 28 places.
-/

namespace Sift.Number

/-- Two to the power of 96. -/
def Fixed.bound : Nat := 0x1000000000000000000000000

def Fixed.maxScale : Nat := 28

/-- Stands for `coefficient / 10 ^ scale`, or for the opposite of it. -/
structure Fixed where
  negative : Bool
  coefficient : Nat
  scale : Nat
  coefficient_lt : coefficient < Fixed.bound
  scale_le : scale ≤ Fixed.maxScale
  deriving DecidableEq

namespace Fixed

def ofParts? (negative : Bool) (coefficient scale : Nat) : Option Fixed :=
  if h : coefficient < bound ∧ scale ≤ maxScale then
    some ⟨negative, coefficient, scale, h.1, h.2⟩
  else none

def zero : Fixed := ⟨false, 0, 0, by decide, by decide⟩

/-- The coefficient with its sign. -/
def unscaled (d : Fixed) : Int := if d.negative then -d.coefficient else d.coefficient

/-- The number in units of the last of 28 places. -/
def units (d : Fixed) : Int := d.unscaled * Nat.pow 10 (maxScale - d.scale)

instance : Ord Fixed := ⟨compareOn units⟩

/-! Reading -/

/-- The characters that may stand where digits do not count any more. -/
def isFiller (c : Char) : Bool := c.isDigit || c = '_'

/-- Rounds a full coefficient by the first character after it. A digit from five up counts as one
unit more, which may cost a place; the digits behind it do not count. -/
def roundOff (coefficient scale : Nat) (cs : List Char) : Option (Nat × Nat) :=
  if !cs.all isFiller then none
  else if (cs.head?).any fun c => c.isDigit && '5' ≤ c then
    if coefficient + 1 < bound then some (coefficient + 1, scale)
    else if scale = 0 then none
    else some ((coefficient + 5) / 10, scale - 1)
  else some (coefficient, scale)

/-- A coefficient from here up is long: with another digit and some room to spare it does not fit
64 bits. -/
def longFrom : Nat := 0xffffffffffffffff / 10 - 255

/-- What rounds a coefficient behind its last place. Underscores are passed over if the coefficient
was long before its last digit; after a short one an underscore stands for the digit zero. -/
def roundingPart (before : Nat) (cs : List Char) : List Char :=
  if before < longFrom then cs else cs.dropWhile (· = '_')

/-- Reads digits with at most one point, and underscores after the first digit. `point` says that
the point is behind, `any` that a digit is. -/
def scan (point any : Bool) (coefficient scale : Nat) : List Char → Option (Nat × Nat)
  | [] => if any then some (coefficient, scale) else none
  | c :: cs =>
    if c.isDigit then
      let more := 10 * coefficient + (c.toNat - '0'.toNat)
      let places := if point then scale + 1 else 0
      if bound ≤ more then
        if point then roundOff coefficient scale (c :: cs) else none
      else if maxScale ≤ places then roundOff more places (roundingPart coefficient cs)
      else scan point true more places cs
    else if c = '.' && !point then scan true any coefficient scale cs
    else if c = '_' && any then scan point any coefficient scale cs
    else none

/-- An optional sign and digits; a zero has no sign. -/
def readPlain : List Char → Option Fixed
  | '-' :: cs => (scan false false 0 0 cs).bind fun (n, scale) => ofParts? (n ≠ 0) n scale
  | '+' :: cs => (scan false false 0 0 cs).bind fun (n, scale) => ofParts? false n scale
  | cs => (scan false false 0 0 cs).bind fun (n, scale) => ofParts? false n scale

/-- Takes the last digits off a coefficient and rounds it by the first of them, a half away from
zero. -/
def dropDigits (n : Nat) : Nat → Nat
  | 0 => n
  | count + 1 => (n / Nat.pow 10 count + 5) / 10

/-- Moves the point to the right, at most 28 places. -/
def raise (d : Fixed) (places : Nat) : Option Fixed :=
  if places ≤ d.scale then ofParts? d.negative d.coefficient (d.scale - places)
  else if places ≤ maxScale then
    ofParts? d.negative (d.coefficient * Nat.pow 10 (places - d.scale)) 0
  else none

/-- Moves the point to the left, at most 28 places, and drops what comes to stand behind the last
place. -/
def lower (d : Fixed) (places : Nat) : Option Fixed :=
  let scale := d.scale + places
  if places ≤ maxScale then
    ofParts? d.negative (dropDigits d.coefficient (scale - maxScale)) (min scale maxScale)
  else none

def isExponentMark (c : Char) : Bool := c = 'e' || c = 'E'

def readExponent : List Char → Option Nat
  | '+' :: cs => readNat cs
  | cs => readNat cs

/-- A plain decimal, the exponent mark, and how far the point moves. -/
def readScientific (cs : List Char) : Option Fixed :=
  match cs.dropWhile (!isExponentMark ·) with
  | [] => none
  | _ :: power => do
    let base ← readPlain (cs.takeWhile (!isExponentMark ·))
    match power with
    | '-' :: power => base.lower (← readExponent power)
    | power => base.raise (← readExponent power)

def read (cs : List Char) : Option Fixed := readPlain cs <|> readScientific cs

/-! Writing -/

/-- All digits of the scale, and at least one before the point. -/
def digits (d : Fixed) : List Char :=
  let ds := padded (d.scale + 1) d.coefficient
  let whole := ds.take (ds.length - d.scale)
  let sign := if d.negative then ['-'] else []
  if d.scale = 0 then sign ++ whole else sign ++ whole ++ '.' :: ds.drop (ds.length - d.scale)

end Fixed

end Sift.Number
