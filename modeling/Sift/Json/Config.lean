import Sift.Config
import Sift.Journal
import Sift.Json.Decode
import Sift.Json.Written

/-!
The configuration as JSON, and its loading from the contents of a file.
-/

namespace Sift

open Sift.Json

def UnknownFieldPolicy.names : List (String × UnknownFieldPolicy) :=
  [("ignore", ignore), ("throw", refuse)]

def UnknownFieldPolicy.name : UnknownFieldPolicy → String
  | ignore => "ignore"
  | refuse => "throw"

def TextMatching.names : List (String × TextMatching) :=
  [("ordinal", ordinal), ("ignore_case", ignoreCase)]

def TextMatching.name : TextMatching → String
  | ordinal => "ordinal"
  | ignoreCase => "ignore_case"

def EmptyValuePolicy.names : List (String × EmptyValuePolicy) :=
  [("skip_criterion", skip), ("skip_unless_structural", skipUnlessStructural)]

def EmptyValuePolicy.name : EmptyValuePolicy → String
  | skip => "skip_criterion"
  | skipUnlessStructural => "skip_unless_structural"

namespace Json

structure ConfigDraft where
  unknownField : Option UnknownFieldPolicy := none
  textMatching : Option TextMatching := none
  listSeparator : Option Char := none
  emptyValue : Option EmptyValuePolicy := none

/-- Every field has a default. -/
def configDecoder : RecordDecoder ConfigDraft Config where
  names := ["unknown_field_policy", "text_matching", "list_separator", "empty_value_policy"]
  start := {}
  take s name d :=
    if name = "unknown_field_policy" then
      (fill s.unknownField name (decodeVariant UnknownFieldPolicy.names d)).map fun x =>
        { s with unknownField := x }
    else if name = "text_matching" then
      (fill s.textMatching name (decodeVariant TextMatching.names d)).map fun x =>
        { s with textMatching := x }
    else if name = "list_separator" then
      (fill s.listSeparator name (decodeChar d)).map fun x => { s with listSeparator := x }
    else
      (fill s.emptyValue name (decodeVariant EmptyValuePolicy.names d)).map fun x =>
        { s with emptyValue := x }
  finish s :=
    let c : Config := {}
    .ok ⟨s.unknownField.getD c.unknownField, s.textMatching.getD c.textMatching,
      s.listSeparator.getD c.listSeparator, s.emptyValue.getD c.emptyValue⟩

end Json

namespace Config

def ofJson (s : String) : Except Error Config :=
  match decodeString configDecoder.decode s with
  | .ok c => .ok c
  | .error f => .error (.config f.message)

def toDoc (c : Config) : Doc :=
  .record
    [("unknown_field_policy", .text c.unknownField.name),
     ("text_matching", .text c.textMatching.name),
     ("list_separator", .text (.singleton c.listSeparator)),
     ("empty_value_policy", .text c.emptyValue.name)]

def toJson (c : Config) : String := c.toDoc.written

/-- Reads the contents of a file, if the file is there and holds text. -/
def ofContents : Option ByteArray → Except Error Config
  | none => .error (.config "no such file")
  | some bytes => match String.fromUTF8? bytes with
    | none => .error (.config "the file holds no text")
    | some s => ofJson s

/-- Only a successful load is recorded. -/
def load (contents : Option ByteArray) : Journaled (Except Error Config) :=
  match ofContents contents with
  | .ok c => ⟨.ok c, [.configLoaded]⟩
  | .error e => ⟨.error e, []⟩

end Config

end Sift
