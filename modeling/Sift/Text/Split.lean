import Sift.Text.Blank

/-!
Cutting the text of an operand at a separator. There is always one token more than there are
separators in the text; a list operand keeps the tokens that are not empty.
-/

namespace Sift.Text

/-- The tokens of a range operand: every stretch between separators, trimmed. -/
def splitRange (sep : Char) (s : String) : List String :=
  (s.toList.splitOn sep).map fun cs => .ofList (trimmed cs)

/-- The tokens of a list operand: the stretches that hold more than blanks, trimmed. -/
def splitList (sep : Char) (s : String) : List String :=
  (splitRange sep s).filter (· ≠ "")

end Sift.Text
