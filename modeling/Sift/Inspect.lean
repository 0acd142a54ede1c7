import Sift.Path.Node
import Sift.Query

/-!
One-line inspections of values, for debugging: the name of a type and its parts between braces,
texts in quotes, and of what cannot be shown only that it is there.
-/

namespace Sift.Inspect

variable {ε τ : Type}

/-- The name of a record, and its parts with their names. -/
def record (name : String) (parts : List (String × String)) : String :=
  name ++ " \x7b " ++ ", ".intercalate (parts.map fun (n, v) => n ++ ": " ++ v) ++ " \x7d"

def list (items : List String) : String := "[" ++ ", ".intercalate items ++ "]"

def option : Option String → String
  | none => "None"
  | some s => "Some(" ++ s ++ ")"

def boolean (b : Bool) : String := if b then "true" else "false"

def count (n : Nat) : String := .ofList (Nat.toDigits 10 n)

def kind : Kind → String
  | .string => "String"
  | .boolean => "Boolean"
  | .integer => "Integer"
  | .long => "Long"
  | .fixedPoint => "FixedPoint"
  | .float32 => "Float32"
  | .float64 => "Float64"
  | .date => "Date"
  | .dateWithOffset => "DateWithOffset"

def direction : SortDirection → String
  | .ascending => "Ascending"
  | .descending => "Descending"

def unknownFieldPolicy : UnknownFieldPolicy → String
  | .ignore => "Ignore"
  | .refuse => "Throw"

def textMatching : TextMatching → String
  | .ordinal => "Ordinal"
  | .ignoreCase => "IgnoreCase"

def emptyValuePolicy : EmptyValuePolicy → String
  | .skip => "SkipCriterion"
  | .skipUnlessStructural => "SkipUnlessStructural"

def config (c : Config) : String :=
  record "EngineConfig"
    [("unknown_field_policy", unknownFieldPolicy c.unknownField),
     ("text_matching", textMatching c.textMatching),
     ("list_separator", Text.quotedChar c.listSeparator),
     ("empty_value_policy", emptyValuePolicy c.emptyValue)]

def filterCriterion (c : FilterCriterion) : String :=
  record "FilterCriterion"
    [("field", Text.quoted c.field), ("operator", c.operator.name), ("value", Text.quoted c.value)]

def sortCriterion (c : SortCriterion) : String :=
  record "SortCriterion" [("field", Text.quoted c.field), ("direction", direction c.direction)]

def fieldRef (f : FieldRef ε) : String := "FieldRef(" ++ f.key ++ ")"

def mapping (m : Mapping ε) : String :=
  record "FieldMapping"
    [("key", Text.quoted m.key), ("kind", kind m.kind), ("nullable", boolean m.nullable),
     ("required", boolean m.required), ("path", option (m.path?.map Text.quoted))]

def registry (r : Registry ε) : String :=
  record "Registry"
    [("mappings", list (r.mappings.map mapping)), ("filters", list (r.filters.map filterCriterion)),
     ("sorts", list (r.sorts.map sortCriterion)), ("config", config r.config)]

def predicate (p : Predicate ε) : String := "Predicate(" ++ p.written ++ ")"

def filter (f : Filter ε) : String :=
  record "CompiledFilter"
    [("predicate", predicate f.predicate), ("fragments", count f.fragments),
     ("skipped", list (f.skipped.map filterCriterion))]

def order (o : SortOrder ε) : String := "CompiledOrdering(" ++ o.written ++ ")"

def shape : MemberShape τ → String
  | .scalar k nullable => record "Scalar" [("kind", kind k), ("nullable", boolean nullable)]
  | .object _ nullable => record "Object" [("nullable", boolean nullable)]

def member : Member → String
  | .scalar v => "Scalar(" ++ v.written ++ ")"
  | .absent => "Object(None)"
  | .object _ => "Object(..)"

end Sift.Inspect
