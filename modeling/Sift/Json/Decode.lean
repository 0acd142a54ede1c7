import Sift.Json.Reader

/-!
Decoding trees into records. A record is written as an object, in any order and with names it does
not know, or as an array of its fields in order. The first fault from the left is reported.
-/

namespace Sift.Json

inductive Fault
  | malformed
  | missingField (name : String)
  | duplicateField (name : String)
  | unknownVariant (name : String) (expected : List String)
  | refused (message : String)
  deriving DecidableEq

/-- A name as faults show it. -/
def marked (name : String) : String := "\x60" ++ name ++ "\x60"

def Fault.message : Fault → String
  | malformed => "malformed"
  | missingField name => "missing field " ++ marked name
  | duplicateField name => "duplicate field " ++ marked name
  | unknownVariant name expected =>
    "unknown variant " ++ marked name ++ ", expected " ++ " or ".intercalate (expected.map marked)
  | refused message => message

abbrev Decoder (α : Type) := Doc → Except Fault α

variable {α σ : Type}

def decodeText : Decoder String
  | .text s => .ok s
  | _ => .error .malformed

/-- A string of one character. -/
def decodeChar : Decoder Char
  | .text s => match s.toList with
    | [c] => .ok c
    | _ => .error .malformed
  | _ => .error .malformed

def decodeList (item : Decoder α) : Decoder (List α)
  | .array items closed => do
    let xs ← items.mapM item
    if closed then .ok xs else .error .malformed
  | _ => .error .malformed

/-- One of some names, alone or as the name of the only member of an object, which is null. -/
def decodeVariant (variants : List (String × α)) : Decoder α
  | .text s => find s
  | .object ((some s, d) :: rest) closed => do
    let a ← find s
    match d, rest, closed with
    | .null, [], true => .ok a
    | _, _, _ => .error .malformed
  | _ => .error .malformed
where
  find (s : String) : Except Fault α :=
    match variants.lookup s with
    | some a => .ok a
    | none => .error (.unknownVariant s (variants.map (·.1)))

/-- Fills a place that has to be empty. -/
def fill (place : Option α) (name : String) (value : Except Fault α) : Except Fault (Option α) :=
  if place.isSome then .error (.duplicateField name) else value.map some

/-- What a record is made from: the names of its fields in order, how a named field is taken in,
and how the record is closed. -/
structure RecordDecoder (σ α : Type) where
  names : List String
  start : σ
  take : σ → String → Decoder σ
  finish : σ → Except Fault α

namespace RecordDecoder

/-- Takes in the members of an object; the values of unknown names only have to be whole. -/
def takeMembers (r : RecordDecoder σ α) (s : σ) : List (Option String × Doc) → Except Fault σ
  | [] => .ok s
  | (none, _) :: _ => .error .malformed
  | (some name, d) :: ms =>
    if name ∈ r.names then (r.take s name d).bind fun s => r.takeMembers s ms
    else if d.isWhole then r.takeMembers s ms
    else .error .malformed

/-- Takes in items as the fields of the names; there may not be more items than names. -/
def takeItems (r : RecordDecoder σ α) (s : σ) : List String → List Doc → Except Fault σ
  | _, [] => .ok s
  | [], _ :: _ => .error .malformed
  | name :: names, d :: ds => (r.take s name d).bind fun s => r.takeItems s names ds

def decode (r : RecordDecoder σ α) : Decoder α
  | .object members closed => do
    let s ← r.takeMembers r.start members
    if closed then r.finish s else .error .malformed
  | .array items closed => do
    let s ← r.takeItems r.start r.names items
    match closed, r.finish s with
    | true, .ok a => .ok a
    | _, _ => .error .malformed
  | _ => .error .malformed

end RecordDecoder

/-- Decodes a whole text. -/
def decodeString (decoder : Decoder α) (s : String) : Except Fault α := do
  let (d, complete) := Doc.ofString s
  let a ← decoder d
  if complete then .ok a else .error .malformed

end Sift.Json
