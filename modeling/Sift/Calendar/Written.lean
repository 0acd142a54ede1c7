import Sift.Calendar.DateTime
import Sift.Number.Digits

/-!
How dates are written. Years of four digits have no sign, all others do; the fraction of a second
has as many groups of three digits as it needs. Offsets are written in hours and minutes.
-/

namespace Sift.Calendar

open Sift.Number (padded)

def Date.written (d : Date) : List Char :=
  let year := if 0 ≤ d.year ∧ d.year ≤ 9999 then padded 4 d.year.toNat
    else (if d.year < 0 then '-' else '+') :: padded 4 d.year.natAbs
  year ++ '-' :: padded 2 d.month ++ '-' :: padded 2 d.day

def Clock.writtenFraction (c : Clock) : List Char :=
  let n := c.fraction
  if n = 0 then []
  else if n % 1000000 = 0 then '.' :: padded 3 (n / 1000000)
  else if n % 1000 = 0 then '.' :: padded 6 (n / 1000)
  else '.' :: padded 9 n

def Clock.written (c : Clock) : List Char :=
  padded 2 c.hour ++ ':' :: padded 2 c.minute ++ ':' :: padded 2 c.shownSecond ++ c.writtenFraction

/-- Hours and minutes; seconds are rounded to the nearest minute. -/
def Offset.written (o : Offset) : List Char :=
  let m := (o.seconds.natAbs + 30) / 60
  (if o.seconds < 0 then '-' else '+') :: padded 2 (m / 60) ++ ':' :: padded 2 (m % 60)

def DateTime.written (t : DateTime) : List Char := t.date.written ++ 'T' :: t.clock.written

def OffsetDateTime.written (t : OffsetDateTime) : List Char := t.wall.written ++ t.offset.written

end Sift.Calendar
