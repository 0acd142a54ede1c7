import Sift.Error
import Sift.Text.Case

/-!
Descriptions of entity types. A schema describes every type of a family; members that are objects
name their type, so a type may contain itself.
-/

namespace Sift

variable {τ : Type}

inductive MemberShape (τ : Type)
  | scalar (kind : Kind) (nullable : Bool)
  | object (type : τ) (nullable : Bool)

structure MemberDescription (τ : Type) where
  name : String
  shape : MemberShape τ

structure TypeDescription (τ : Type) where
  name : String
  members : List (MemberDescription τ)

/-- The first member of a name, whatever the case of its ASCII letters. -/
def TypeDescription.find? (t : TypeDescription τ) (name : String) : Option (MemberDescription τ) :=
  t.members.find? fun m => Text.sameAscii m.name name

abbrev Schema (τ : Type) := τ → TypeDescription τ

end Sift
