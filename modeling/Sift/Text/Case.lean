import Sift.Text.Case.Capital
import Sift.Text.Case.Cased
import Sift.Text.Case.Ignorable

/-!
Small letters. Each character has a small form of its own, except the capital sigma: at the end of
a word it becomes the final sigma, so the small form of a text depends on what stands around it.
Names that need only the ASCII letters are compared by `sameAscii`.
-/

namespace Sift.Text

namespace Case

def isCased (c : Char) : Bool :=
  casedRanges.any fun (first, last) => first ≤ c.toNat && c.toNat ≤ last

def isIgnorable (c : Char) : Bool :=
  ignorableRanges.any fun (first, last) => first ≤ c.toNat && c.toNat ≤ last

/-- The nearest character that is not passed over is a letter with case. -/
def meetsCased (cs : List Char) : Bool :=
  ((cs.dropWhile isIgnorable).head?).any isCased

/-- The small form of a character on its own. -/
def lowerChar (c : Char) : List Char :=
  if c.toNat < 0x80 then [c.toLower]
  else if c = 'İ' then ['i', '\u0307']
  else match capitalRuns.find? (·.contains c.toNat) with
    | some run => [Char.ofNat (c.toNat + run.shift).toNat]
    | none => [c]

/-- The sigma is final if a letter is met before it and none after it. -/
def lowerSigma (before after : List Char) : Char :=
  if meetsCased before && !meetsCased after then 'ς' else 'σ'

/-- The small form of the rest of a text; `before` holds what precedes it, nearest first. -/
def lowerFrom (before : List Char) : List Char → List Char
  | [] => []
  | c :: cs =>
    (if c = 'Σ' then [lowerSigma before cs] else lowerChar c) ++ lowerFrom (c :: before) cs

end Case

def lower (s : String) : String := .ofList (Case.lowerFrom [] s.toList)

/-- Equal up to the case of the ASCII letters. -/
def sameAscii (s t : String) : Bool :=
  s.toList.map Char.toLower == t.toList.map Char.toLower

end Sift.Text
