import Sift.Scalar
import Sift.Calendar.Pattern
import Sift.Number.Binary.Reader
import Sift.Text.Case

/-!
Reading operands. The text of a string is taken as it is; of any other kind, blanks around it do
not count.
-/

namespace Sift

open Sift.Number

/-- The words true and false, in any case. -/
def readBoolean (s : String) : Option Bool :=
  if Text.sameAscii s "true" then some true
  else if Text.sameAscii s "false" then some false
  else none

/-- A floating point number that is a number. -/
def readFloat (f : BinaryFormat) (cs : List Char) : Option (Binary f) :=
  (Binary.read f cs).filter fun x => !x.isNaN

def Scalar.read (k : Kind) (s : String) : Option Scalar :=
  let t := Text.trim s
  match k with
  | .string => some (.string s)
  | .boolean => (readBoolean t).map .boolean
  | .integer => (readInt32 t.toList).map .integer
  | .long => (readInt64 t.toList).map .long
  | .fixedPoint => (Fixed.read t.toList).map .fixedPoint
  | .float32 => (readFloat .single t.toList).map .float32
  | .float64 => (readFloat .double t.toList).map .float64
  | .date => (Calendar.readDateTime t).map .date
  | .dateWithOffset => (Calendar.readOffsetDateTime t).map .dateWithOffset

end Sift
