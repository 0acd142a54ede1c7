import Sift.Json.Doc

/-!
The shortest JSON text of a tree: no blanks, and in strings only what has to be escaped.
-/

namespace Sift.Json

/-- A character in a string. -/
def escapedChar (c : Char) : List Char :=
  if c = '"' || c = '\\' then ['\\', c]
  else if c.toNat = 8 then ['\\', 'b']
  else if c = '\t' then ['\\', 't']
  else if c = '\n' then ['\\', 'n']
  else if c.toNat = 12 then ['\\', 'f']
  else if c = '\r' then ['\\', 'r']
  else if c.toNat < 32 then
    ['\\', 'u', '0', '0', Nat.digitChar (c.toNat / 16), Nat.digitChar (c.toNat % 16)]
  else [c]

def writtenText (s : String) : List Char := '"' :: s.toList.flatMap escapedChar ++ ['"']

/-- The parts with commas between them. -/
def withCommas : List (List Char) → List Char
  | [] => []
  | [cs] => cs
  | cs :: rest => cs ++ ',' :: withCommas rest

namespace Doc

mutual

def chars : Doc → List Char
  | null => "null".toList
  | boolean b => if b then "true".toList else "false".toList
  | number literal => literal.toList
  | text s => writtenText s
  | array items _ => '[' :: withCommas (itemChars items) ++ [']']
  | object members _ => '\x7b' :: withCommas (memberChars members) ++ ['\x7d']
  | unpaired | torn => []

def itemChars : List Doc → List (List Char)
  | [] => []
  | d :: ds => d.chars :: itemChars ds

def memberChars : List (Option String × Doc) → List (List Char)
  | [] => []
  | (name, d) :: ms => (writtenText (name.getD "") ++ ':' :: d.chars) :: memberChars ms

end

def written (d : Doc) : String := .ofList d.chars

end Doc

end Sift.Json
