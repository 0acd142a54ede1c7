import Sift.Criterion
import Sift.Json.Decode
import Sift.Json.Written

/-!
Requests as JSON. There are two decoders. `Request.decode` looks up operators while it decodes, so
that an unknown one is reported where it stands; `Request.ofJson` decodes the whole text with
operators as plain strings and looks them up afterwards.
-/

namespace Sift

open Sift.Json

variable {ω : Type}

namespace Json

def required {α : Type} (place : Option α) (name : String) : Except Fault α :=
  match place with
  | some a => .ok a
  | none => .error (.missingField name)

def ofOutcome {α : Type} : Except Error α → Except Fault α
  | .ok a => .ok a
  | .error e => .error (.refused e.message)

structure FilterDraft (ω : Type) where
  field : Option String := none
  operator : Option ω := none
  value : Option String := none

/-- A filter criterion whose operator has been read in some way. -/
structure ReadFilter (ω : Type) where
  field : String
  operator : ω
  value : String

def filterDecoder (operator : Decoder ω) : RecordDecoder (FilterDraft ω) (ReadFilter ω) where
  names := ["field", "operator", "value"]
  start := {}
  take s name d :=
    if name = "field" then
      (fill s.field name (decodeText d)).map fun x => { s with field := x }
    else if name = "operator" then
      (fill s.operator name (operator d)).map fun x => { s with operator := x }
    else (fill s.value name (decodeText d)).map fun x => { s with value := x }
  finish s := do
    return ⟨← required s.field "field", ← required s.operator "operator", s.value.getD ""⟩

def decodeDirection (d : Doc) : Except Fault SortDirection := do
  ofOutcome (SortDirection.ofName (← decodeText d))

structure SortDraft where
  field : Option String := none
  direction : Option SortDirection := none

def sortDecoder : RecordDecoder SortDraft SortCriterion where
  names := ["field", "direction"]
  start := {}
  take s name d :=
    if name = "field" then
      (fill s.field name (decodeText d)).map fun x => { s with field := x }
    else (fill s.direction name (decodeDirection d)).map fun x => { s with direction := x }
  finish s := do
    return ⟨← required s.field "field", s.direction.getD .ascending⟩

structure RequestDraft (ω : Type) where
  filters : Option (List (ReadFilter ω)) := none
  sorts : Option (List SortCriterion) := none

def requestDecoder (operator : Decoder ω) :
    RecordDecoder (RequestDraft ω) (List (ReadFilter ω) × List SortCriterion) where
  names := ["filters", "sorts"]
  start := {}
  take s name d :=
    if name = "filters" then
      (fill s.filters name (decodeList (filterDecoder operator).decode d)).map fun x =>
        { s with filters := x }
    else
      (fill s.sorts name (decodeList sortDecoder.decode d)).map fun x => { s with sorts := x }
  finish s := .ok (s.filters.getD [], s.sorts.getD [])

def decodeOperator (d : Doc) : Except Fault Operator := do
  ofOutcome (Operator.ofName (← decodeText d))

end Json

/-- Gives a criterion whose operator was read as text its operator. -/
def FilterCriterion.ofRead (f : ReadFilter String) : Except Error FilterCriterion :=
  (Operator.ofName f.operator).map fun op => ⟨f.field, op, f.value⟩

namespace Request

/-- Reads a request as it comes from outside. -/
def ofJson (s : String) : Except Error Request :=
  match decodeString (requestDecoder decodeText).decode s with
  | .error f => .error (.argument "request" f.message)
  | .ok (filters, sorts) =>
    (filters.mapM FilterCriterion.ofRead).map fun filters => ⟨filters, sorts⟩

/-- Reads a request with its operators in place. -/
def decode (s : String) : Except Fault Request :=
  (decodeString (requestDecoder decodeOperator).decode s).map fun (filters, sorts) =>
    ⟨filters.map fun f => ⟨f.field, f.operator, f.value⟩, sorts⟩

end Request

def FilterCriterion.toDoc (c : FilterCriterion) : Doc :=
  .record [("field", .text c.field), ("operator", .text c.operator.name), ("value", .text c.value)]

def SortCriterion.toDoc (c : SortCriterion) : Doc :=
  .record [("field", .text c.field), ("direction", .text c.direction.name)]

def Request.toDoc (r : Request) : Doc :=
  .record [("filters", .list (r.filters.map (·.toDoc))), ("sorts", .list (r.sorts.map (·.toDoc)))]

def Request.toJson (r : Request) : String := r.toDoc.written

end Sift
