import Sift.Calendar.DateTime
import Sift.Number.Digits
import Sift.Text.Blank

/-!
Patterns of written dates. A pattern is a list of items, each of which takes characters off the
front of a text and may fill in a part of a date; a text is of the pattern if nothing is left.
Lenient numbers pass over blanks before them and may have fewer digits than usual.
-/

namespace Sift.Calendar

/-- What has been read so far; what a pattern does not mention is zero. -/
structure Parts where
  year : Int
  month : Nat
  day : Nat
  hour : Nat
  minute : Nat
  second : Nat
  nano : Nat
  offset : Int

namespace Parts

def none : Parts := ⟨0, 0, 0, 0, 0, 0, 0, 0⟩

def date? (p : Parts) : Option Date := Date.ofParts? p.year p.month p.day

def dateTime? (p : Parts) : Option DateTime := do
  some ⟨← p.date?, ← Clock.ofParts? p.hour p.minute p.second p.nano⟩

def offsetDateTime? (p : Parts) : Option OffsetDateTime := do
  OffsetDateTime.ofWall? (← p.dateTime?) (← Offset.ofMinutes? p.offset)

end Parts

inductive Component
  | month
  | day
  | hour
  | minute
  | second
  deriving DecidableEq

def Component.fill (p : Parts) (n : Nat) : Component → Parts
  | .month => { p with month := n }
  | .day => { p with day := n }
  | .hour => { p with hour := n }
  | .minute => { p with minute := n }
  | .second => { p with second := n }

inductive Item
  /-- One of some characters. -/
  | oneOf (cs : List Char)
  /-- Any blanks, or none. -/
  | blanks
  /-- Four digits. -/
  | exactYear
  /-- Up to four digits, or a sign and any number of them. -/
  | year
  /-- Two digits. -/
  | exact (c : Component)
  /-- One or two digits. -/
  | number (c : Component)
  /-- A point and digits, or nothing; from the tenth on they are dropped. -/
  | fraction
  /-- A sign, hours, a colon and minutes, or the letter Z. -/
  | exactOffset
  /-- A sign, hours and minutes, with any colons and blanks between. -/
  | offset

namespace Item

/-- Between `least` and `most` digits, and what follows. -/
def digits (least most : Nat) (cs : List Char) : Option (Nat × List Char) :=
  let ds := (cs.take most).takeWhile Char.isDigit
  if ds.length < least then none else some (Number.ofDigits ds, cs.drop ds.length)

def signedYear (cs : List Char) : Option (Int × List Char) :=
  match cs with
  | '-' :: r => (digits 1 r.length r).map fun (n, r) => (-n, r)
  | '+' :: r => (digits 1 r.length r).map fun (n, r) => (n, r)
  | r => (digits 1 4 r).map fun (n, r) => (n, r)

def nanoseconds (cs : List Char) : Option (Nat × List Char) :=
  let ds := (Number.leadingDigits cs).take 9
  if ds = [] then none
  else some (Number.ofDigits ds * Nat.pow 10 (9 - ds.length), Number.afterDigits cs)

/-- The hours and minutes behind the sign of an offset, with `gap` between. -/
def hoursMinutes (gap : List Char → Option (List Char)) (cs : List Char) :
    Option (Nat × List Char) := do
  let (h, r) ← digits 2 2 cs
  let (m, r) ← digits 2 2 (← gap r)
  if m < 60 then some (h * 60 + m, r) else none

def signedOffset (gap : List Char → Option (List Char)) : List Char → Option (Int × List Char)
  | '+' :: r => (hoursMinutes gap r).map fun (n, r) => (n, r)
  | '-' :: r => (hoursMinutes gap r).map fun (n, r) => (-n, r)
  | '\u2212' :: r => (hoursMinutes gap r).map fun (n, r) => (-n, r)
  | _ => none

def colon : List Char → Option (List Char)
  | ':' :: r => some r
  | _ => none

def colonsAndBlanks (cs : List Char) : Option (List Char) :=
  some (cs.dropWhile fun c => c = ':' || Text.isBlank c)

/-- Takes the item off the front of a text. -/
def read (p : Parts) (cs : List Char) : Item → Option (Parts × List Char)
  | oneOf allowed => match cs with
    | c :: r => if c ∈ allowed then some (p, r) else none
    | [] => none
  | blanks => some (p, Text.dropBlanks cs)
  | exactYear => (digits 4 4 cs).map fun (n, r) => ({ p with year := n }, r)
  | year => (signedYear (Text.dropBlanks cs)).map fun (n, r) => ({ p with year := n }, r)
  | exact c => (digits 2 2 cs).map fun (n, r) => (c.fill p n, r)
  | number c => (digits 1 2 (Text.dropBlanks cs)).map fun (n, r) => (c.fill p n, r)
  | fraction => match cs with
    | '.' :: r => (nanoseconds r).map fun (n, r) => ({ p with nano := n }, r)
    | r => some (p, r)
  | exactOffset => match cs with
    | 'Z' :: r => some (p, r)
    | 'z' :: r => some (p, r)
    | r => (signedOffset colon r).map fun (n, r) => ({ p with offset := n }, r)
  | offset =>
    (signedOffset colonsAndBlanks (Text.dropBlanks cs)).map fun (n, r) =>
      ({ p with offset := n }, r)

end Item

abbrev Pattern := List Item

namespace Pattern

def readFrom (p : Parts) (cs : List Char) : Pattern → Option (Parts × List Char)
  | [] => some (p, cs)
  | i :: is => (i.read p cs).bind fun (p, r) => readFrom p r is

/-- The parts of a text that is of the pattern. -/
def read (is : Pattern) (cs : List Char) : Option Parts :=
  match readFrom .none cs is with
  | some (p, []) => some p
  | _ => none

def mark (c : Char) : Item := .oneOf [c]

/-- The standard form of a date with offset: every number has all its digits. -/
def standard : Pattern :=
  [.exactYear, mark '-', .exact .month, mark '-', .exact .day, .oneOf ['T', 't', ' '],
   .exact .hour, mark ':', .exact .minute, mark ':', .exact .second, .fraction, .exactOffset]

def day (separator : Char) : Pattern :=
  [.year, mark separator, .number .month, mark separator, .number .day]

def hourMinute : Pattern := [.number .hour, mark ':', .number .minute]

def hourMinuteSecond : Pattern := hourMinute ++ [mark ':', .number .second, .fraction]

def dateTimes : List Pattern :=
  [day '-' ++ [mark 'T'] ++ hourMinuteSecond,
   day '-' ++ [.blanks] ++ hourMinuteSecond,
   day '-' ++ [mark 'T'] ++ hourMinute,
   day '-' ++ [.blanks] ++ hourMinute]

def days : List Pattern := [day '-', day '/']

def offsetDateTimes : List Pattern :=
  [day '-' ++ [mark 'T'] ++ hourMinuteSecond ++ [.offset],
   day '-' ++ [.blanks] ++ hourMinuteSecond ++ [.blanks, .offset]]

end Pattern

/-- The standard form, of which the offset is dropped; else a date and a time; else a day, at
midnight. -/
def readDateTime (s : String) : Option DateTime :=
  let cs := s.toList
  ((Pattern.standard.read cs).bind (·.offsetDateTime?)).map (·.wall)
    <|> Pattern.dateTimes.findSome? (fun p => (p.read cs).bind (·.dateTime?))
    <|> (Pattern.days.findSome? (fun p => (p.read cs).bind (·.date?))).map .atMidnight

/-- The standard form; else a date, a time and an offset; else a text without offset, taken as
universal time. -/
def readOffsetDateTime (s : String) : Option OffsetDateTime :=
  let cs := s.toList
  (Pattern.standard.read cs).bind (·.offsetDateTime?)
    <|> Pattern.offsetDateTimes.findSome? (fun p => (p.read cs).bind (·.offsetDateTime?))
    <|> (readDateTime s).map .ofUtc

end Sift.Calendar
