import Sift.Field
import Sift.Path

/-!
Entities as paths see them. An object answers the name of a member with a scalar or an object, which
may be absent. Objects may hold each other in any way, round in circles too. Where an object and its
description disagree, the path reads null.
-/

namespace Sift

variable {τ ν ε : Type}

/-- What an object answers to the name of a member. -/
inductive Answer (ν : Type)
  | scalar (v : Scalar)
  | absent
  | object (next : ν)

/-- A type of objects that know their members by name. -/
class Navigable (ν : Type) where
  member? : ν → String → Option (Answer ν)

namespace Navigable

variable [Navigable ν]

/-- Follows the names; the last has to answer a scalar and all others objects. -/
def readPath (n : ν) : List String → Scalar
  | [] => .null
  | name :: rest => match member? n name, rest with
    | some (.scalar v), [] => v
    | some (.object next), r :: rs => readPath next (r :: rs)
    | _, _ => .null

end Navigable

/-- An object that is given by its members. -/
inductive Node
  | mk (member? : String → Option (Answer Node))

/-- A member of such an object. -/
abbrev Member := Answer Node

def Node.member? : Node → String → Option Member
  | mk f => f

instance : Navigable Node := ⟨Node.member?⟩

/-- How entities are navigated: their type in a schema, and the object of each. -/
structure Layout (τ ε : Type) (ν : Type := Node) [Navigable ν] where
  schema : Schema τ
  root : τ
  node : ε → ν

namespace Layout

variable [Navigable ν]

def resolve (l : Layout τ ε ν) (path : String) : Except Error ResolvedPath :=
  l.schema.resolve l.root path

def reader (l : Layout τ ε ν) (r : ResolvedPath) (e : ε) : Scalar :=
  Navigable.readPath (l.node e) r.segments

/-- The field at the end of a resolved path. -/
def mapping (l : Layout τ ε ν) (key : String) (r : ResolvedPath) (required : Bool) : Mapping ε :=
  ⟨key, r.kind, r.nullable, required, some r.canonical, l.reader r⟩

end Layout

end Sift
