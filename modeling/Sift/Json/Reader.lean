import Sift.Json.Doc

/-!
Reading JSON. The reader never fails: where the text goes wrong, the tree is torn.
-/

namespace Sift.Json

def isSpace (c : Char) : Bool := c = ' ' || c = '\n' || c = '\t' || c = '\r'

def skipSpace (cs : List Char) : List Char := cs.dropWhile isSpace

/-! Strings -/

/-- What a string is written with: characters, and code units of UTF-16. -/
inductive Piece
  | char (c : Char)
  | unit (n : Nat)

def hexValue? (c : Char) : Option Nat :=
  if c.isDigit then some (c.toNat - '0'.toNat)
  else if 'a' ≤ c && c ≤ 'f' then some (c.toNat - 'a'.toNat + 10)
  else if 'A' ≤ c && c ≤ 'F' then some (c.toNat - 'A'.toNat + 10)
  else none

def unit? (a b c d : Char) : Option Nat := do
  return (((← hexValue? a) * 16 + (← hexValue? b)) * 16 + (← hexValue? c)) * 16 + (← hexValue? d)

def escape? : Char → Option Char
  | '"' => some '"'
  | '\\' => some '\\'
  | '/' => some '/'
  | 'b' => some '\x08'
  | 'f' => some '\x0c'
  | 'n' => some '\n'
  | 'r' => some '\r'
  | 't' => some '\t'
  | _ => none

/-- The pieces up to the closing quote, and what follows it. -/
def readPieces : List Char → Option (List Piece × List Char)
  | [] => none
  | '"' :: r => some ([], r)
  | '\\' :: 'u' :: a :: b :: c :: d :: r =>
    (unit? a b c d).bind fun n => (readPieces r).map fun (ps, r) => (.unit n :: ps, r)
  | '\\' :: e :: r =>
    (escape? e).bind fun c => (readPieces r).map fun (ps, r) => (.char c :: ps, r)
  | c :: r => if c.toNat < 32 then none else (readPieces r).map fun (ps, r) => (.char c :: ps, r)

def isHighSurrogate (n : Nat) : Bool := 0xd800 ≤ n && n < 0xdc00

def isLowSurrogate (n : Nat) : Bool := 0xdc00 ≤ n && n < 0xe000

/-- The characters of the pieces, if every surrogate is one of a pair. -/
def assemble : List Piece → Option (List Char)
  | [] => some []
  | .char c :: ps => (assemble ps).map (c :: ·)
  | .unit n :: .unit m :: ps =>
    if isHighSurrogate n && isLowSurrogate m then
      (assemble ps).map (Char.ofNat (0x10000 + (n - 0xd800) * 0x400 + (m - 0xdc00)) :: ·)
    else if isHighSurrogate n || isLowSurrogate n then none
    else (assemble (.unit m :: ps)).map (Char.ofNat n :: ·)
  | .unit n :: ps =>
    if isHighSurrogate n || isLowSurrogate n then none
    else (assemble ps).map (Char.ofNat n :: ·)

/-- The string behind an opening quote: its text, if it is one, and what follows. -/
def readText (cs : List Char) : Option (Option String × List Char) :=
  (readPieces cs).map fun (ps, r) => ((assemble ps).map String.ofList, r)

/-! Numbers -/

/-- At least one digit and all that follow it. -/
def readDigits (cs : List Char) : Option (List Char × List Char) :=
  let ds := cs.takeWhile Char.isDigit
  if ds = [] then none else some (ds, cs.dropWhile Char.isDigit)

def readWhole : List Char → Option (List Char × List Char)
  | '0' :: r => if (r.head?).any Char.isDigit then none else some (['0'], r)
  | cs => readDigits cs

def readPlaces : List Char → Option (List Char × List Char)
  | '.' :: r => (readDigits r).map fun (ds, r) => ('.' :: ds, r)
  | r => some ([], r)

def readPower : List Char → Option (List Char × List Char)
  | c :: r =>
    if c = 'e' || c = 'E' then
      match r with
      | '+' :: r => (readDigits r).map fun (ds, r) => (c :: '+' :: ds, r)
      | '-' :: r => (readDigits r).map fun (ds, r) => (c :: '-' :: ds, r)
      | r => (readDigits r).map fun (ds, r) => (c :: ds, r)
    else some ([], c :: r)
  | [] => some ([], [])

def readUnsigned (cs : List Char) : Option (List Char × List Char) := do
  let (whole, r) ← readWhole cs
  let (places, r) ← readPlaces r
  let (power, r) ← readPower r
  return (whole ++ places ++ power, r)

def readNumber : List Char → Option (List Char × List Char)
  | '-' :: r => (readUnsigned r).map fun (ds, r) => ('-' :: ds, r)
  | r => readUnsigned r

/-! Trees -/

namespace Doc

mutual

/-- The tree of a value, and what follows it. The fuel bounds the depth and the length. -/
def readValue : Nat → List Char → Doc × List Char
  | 0, cs => (torn, cs)
  | fuel + 1, cs => match skipSpace cs with
    | '"' :: r => match readText r with
      | some (some s, r) => (text s, r)
      | some (none, r) => (unpaired, r)
      | none => (torn, r)
    | '[' :: r => match skipSpace r with
      | ']' :: r => (array [] true, r)
      | r => let (items, closed, r) := readItems fuel r
        (array items closed, r)
    | '\x7b' :: r => match skipSpace r with
      | '\x7d' :: r => (object [] true, r)
      | r => let (members, closed, r) := readMembers fuel r
        (object members closed, r)
    | 'n' :: 'u' :: 'l' :: 'l' :: r => (null, r)
    | 't' :: 'r' :: 'u' :: 'e' :: r => (boolean true, r)
    | 'f' :: 'a' :: 'l' :: 's' :: 'e' :: r => (boolean false, r)
    | r => match readNumber r with
      | some (ds, r) => (number (.ofList ds), r)
      | none => (torn, r)

/-- Items up to the end of the array, and whether the end was there. -/
def readItems : Nat → List Char → List Doc × Bool × List Char
  | 0, cs => ([torn], false, cs)
  | fuel + 1, cs =>
    let (d, r) := readValue fuel cs
    if !d.isWhole then ([d], false, r)
    else match skipSpace r with
      | ',' :: r => let (ds, closed, r) := readItems fuel r
        (d :: ds, closed, r)
      | ']' :: r => ([d], true, r)
      | r => ([d], false, r)

/-- Members up to the end of the object, and whether the end was there. -/
def readMembers : Nat → List Char → List (Option String × Doc) × Bool × List Char
  | 0, cs => ([], false, cs)
  | fuel + 1, cs => match skipSpace cs with
    | '"' :: r => match readText r with
      | none => ([], false, r)
      | some (name, r) => match skipSpace r with
        | ':' :: r =>
          let (d, r) := readValue fuel r
          if !d.isWhole then ([(name, d)], false, r)
          else match skipSpace r with
            | ',' :: r => let (ms, closed, r) := readMembers fuel r
              ((name, d) :: ms, closed, r)
            | '\x7d' :: r => ([(name, d)], true, r)
            | r => ([(name, d)], false, r)
        | r => ([(name, torn)], false, r)
    | r => ([], false, r)

end

/-- The tree of a text, and whether nothing but space follows. Every step but the first takes a
character, or goes down to an item that does. -/
def ofString (s : String) : Doc × Bool :=
  let (d, r) := readValue (2 * s.length + 2) s.toList
  (d, (skipSpace r).isEmpty)

end Doc

end Sift.Json
