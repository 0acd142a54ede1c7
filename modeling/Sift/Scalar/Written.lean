import Sift.Scalar
import Sift.Calendar.Written
import Sift.Number.Binary.Shortest
import Sift.Text.Quoted

/-!
How scalars are written in rendered predicates and logs: strings in quotes, everything else in the
form that operands have.
-/

namespace Sift.Scalar

open Sift.Number

def written : Scalar → String
  | null => "null"
  | string s => Text.quoted s
  | boolean b => if b then "true" else "false"
  | integer n => .ofList (intDigits n.toInt)
  | long n => .ofList (intDigits n.toInt)
  | fixedPoint d => .ofList d.digits
  | float32 x => .ofList x.digits
  | float64 x => .ofList x.digits
  | date t => .ofList t.written
  | dateWithOffset t => .ofList t.written

end Sift.Scalar
