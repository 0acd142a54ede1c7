import Sift.Scalar

/-!
Fields of entities: how a key reads a scalar off an entity, and what is promised of the scalar.
-/

namespace Sift

open Sift.Number Sift.Calendar

variable {ε α : Type}

/-- The types whose values are scalars of one kind, or null where that is allowed. -/
class ScalarType (α : Type) where
  kind : Kind
  nullable : Bool
  toScalar : α → Scalar
  kind_toScalar (a : α) :
    (toScalar a).kind? = some kind ∨ (nullable = true ∧ toScalar a = .null)

namespace ScalarType

instance : ScalarType String := ⟨.string, false, .string, fun _ => .inl rfl⟩

instance : ScalarType Bool := ⟨.boolean, false, .boolean, fun _ => .inl rfl⟩

instance : ScalarType Int32 := ⟨.integer, false, .integer, fun _ => .inl rfl⟩

instance : ScalarType Int64 := ⟨.long, false, .long, fun _ => .inl rfl⟩

instance : ScalarType Fixed := ⟨.fixedPoint, false, .fixedPoint, fun _ => .inl rfl⟩

instance : ScalarType Binary32 := ⟨.float32, false, .float32, fun _ => .inl rfl⟩

instance : ScalarType Binary64 := ⟨.float64, false, .float64, fun _ => .inl rfl⟩

instance : ScalarType DateTime := ⟨.date, false, .date, fun _ => .inl rfl⟩

/-- A day is its midnight. -/
instance : ScalarType Date := ⟨.date, false, fun d => .date (.atMidnight d), fun _ => .inl rfl⟩

instance : ScalarType OffsetDateTime := ⟨.dateWithOffset, false, .dateWithOffset, fun _ => .inl rfl⟩

instance [ScalarType α] : ScalarType (Option α) where
  kind := kind α
  nullable := true
  toScalar
    | none => .null
    | some a => toScalar a
  kind_toScalar
    | none => .inr ⟨rfl, rfl⟩
    | some a => (kind_toScalar a).imp_right fun h => ⟨rfl, h.2⟩

end ScalarType

/-- A key and how it reads an entity. -/
structure FieldRef (ε : Type) where
  key : String
  read : ε → Scalar

/-- A field of a registry. -/
structure Mapping (ε : Type) where
  key : String
  kind : Kind
  nullable : Bool
  required : Bool
  path? : Option String
  read : ε → Scalar

namespace Mapping

/-- The field that a function reads. -/
def ofFunction [ScalarType α] (key : String) (read : ε → α) (required : Bool) : Mapping ε :=
  ⟨key, ScalarType.kind α, ScalarType.nullable α, required, none,
   fun e => ScalarType.toScalar (read e)⟩

def ref (m : Mapping ε) : FieldRef ε := ⟨m.key, m.read⟩

end Mapping

end Sift
