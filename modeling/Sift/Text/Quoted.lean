import Sift.Text.Hidden

/-!
Quoted texts and characters, as they stand in rendered predicates. A character that would be
misread or not be seen is escaped: the quote itself, the backslash, line ends, and by its code
point whatever `isHidden` names.
-/

namespace Sift.Text

/-- A code point between braces, in hexadecimal without leading zeros. -/
def escapedPoint (c : Char) : List Char :=
  "\\u\x7b".toList ++ Nat.toDigits 16 c.toNat ++ ['\x7d']

/-- How a character is written between two `quote` marks. -/
def escaped (quote c : Char) : List Char :=
  if c = quote || c = '\\' then ['\\', c]
  else if c = '\n' then ['\\', 'n']
  else if c = '\t' then ['\\', 't']
  else if c = '\r' then ['\\', 'r']
  else if c.toNat = 0 then ['\\', '0']
  else if c.toNat < 0x20 || isHidden c then escapedPoint c
  else [c]

def quoted (s : String) : String :=
  .ofList ('"' :: s.toList.flatMap (escaped '"') ++ ['"'])

def quotedChar (c : Char) : String :=
  .ofList ('\'' :: escaped '\'' c ++ ['\''])

end Sift.Text
