/-!
White space, and the trimming of field names and operands.
-/

namespace Sift.Text

/-- The characters of the property White Space, beyond ASCII too. -/
def isBlank (c : Char) : Bool :=
  let n := c.toNat
  (9 ≤ n && n ≤ 13) || n == 0x20 || n == 0x85 || n == 0xa0 || n == 0x1680 ||
    (0x2000 ≤ n && n ≤ 0x200a) || n == 0x2028 || n == 0x2029 || n == 0x202f || n == 0x205f ||
    n == 0x3000

def dropBlanks (cs : List Char) : List Char := cs.dropWhile isBlank

/-- The characters without the blanks at either end. -/
def trimmed (cs : List Char) : List Char := (dropBlanks (dropBlanks cs).reverse).reverse

def trim (s : String) : String := .ofList (trimmed s.toList)

end Sift.Text
