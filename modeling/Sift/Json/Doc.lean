/-!
JSON texts as trees. A text that breaks off or goes wrong somewhere still has a tree of all that
stands before that place: the tree ends in `torn`, and the arrays and objects around it are open.
A decoder that walks a tree from left to right therefore meets faults in the order of the text.
-/

namespace Sift.Json

inductive Doc
  | null
  | boolean (b : Bool)
  | number (literal : String)
  | text (s : String)
  /-- A string in which half of a surrogate pair stands alone; it is no text. -/
  | unpaired
  | array (items : List Doc) (closed : Bool)
  /-- A name that is no text is none. -/
  | object (members : List (Option String × Doc)) (closed : Bool)
  | torn

namespace Doc

/-- The tree is that of a whole text. -/
def isWhole : Doc → Bool
  | array _ closed => closed
  | object _ closed => closed
  | torn => false
  | _ => true

def list (items : List Doc) : Doc := array items true

def record (members : List (String × Doc)) : Doc :=
  object (members.map fun (name, d) => (some name, d)) true

end Doc

end Sift.Json
