import Sift.Path.Schema
import Sift.Text.Split

/-!
Dotted paths. A path is resolved against a schema once: each part but the last has to name an
object, and the last a scalar. What is kept are the names as they were declared.
-/

namespace Sift

variable {τ : Type}

structure ResolvedPath where
  path : String
  segments : List String
  kind : Kind
  nullable : Bool
  deriving DecidableEq

/-- The path in declared names. -/
def ResolvedPath.canonical (r : ResolvedPath) : String := ".".intercalate r.segments

def pathParts (path : String) : List String := Text.splitRange '.' path

namespace Schema

/-- Resolves the parts of a path from a type on. The parts are numbered from `position`, and
`nullable` says that an object before them may be absent. -/
def resolveParts (s : Schema τ) (path : String) (t : τ) (position : Nat) (nullable : Bool) :
    List String → Except Error ResolvedPath
  | [] => .error (.unresolvedPath path (s t).name "path does not end at a scalar")
  | part :: rest =>
    if part = "" then
      .error (.unresolvedPath path (s t).name s!"segment {position} is empty")
    else match (s t).find? part with
      | none => .error (.unresolvedPath path (s t).name s!"no member named '{part}'")
      | some ⟨name, .scalar kind leafNullable⟩ =>
        if rest.isEmpty then .ok ⟨path, [name], kind, nullable || leafNullable⟩
        else .error (.unresolvedPath path (s t).name s!"'{name}' is a scalar and has no members")
      | some ⟨name, .object u absent⟩ =>
        if rest.isEmpty then
          .error (.unresolvedPath path (s t).name s!"'{name}' is an object, not a scalar")
        else (s.resolveParts path u (position + 1) (nullable || absent) rest).map fun r =>
          { r with segments := name :: r.segments }

def resolve (s : Schema τ) (root : τ) (path : String) : Except Error ResolvedPath :=
  if Text.trim path = "" then .error (.unresolvedPath path (s root).name "path is empty")
  else s.resolveParts path root 1 false (pathParts path)

end Schema

end Sift
