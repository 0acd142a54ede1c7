/-!
Substrings, by characters. A text is part of another exactly if the other's characters contain its
characters as one stretch.
-/

namespace Sift.Text

/-- The stretch `p` begins at some position of the list. -/
def occursIn (p : List Char) : List Char → Bool
  | [] => p.isEmpty
  | c :: cs => p.isPrefixOf (c :: cs) || occursIn p cs

def contains (s part : String) : Bool := occursIn part.toList s.toList

def startsWith (s part : String) : Bool := part.toList.isPrefixOf s.toList

def endsWith (s part : String) : Bool := part.toList.isSuffixOf s.toList

end Sift.Text
