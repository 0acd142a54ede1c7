import Sift.Path.Node
import Sift.Proofs.Meaning
import Sift.Proofs.Path.Resolution

/-!
# What a resolved path reads

An entity conforms along a path if every object on the way answers as its type declares. Then the
path reads what is found by going from member to member, of the kind that was resolved, and null
only where the path is nullable. So the tests for null on such a field mean what they say.
-/

namespace Sift

open Navigable (member? readPath)

variable {τ ν ε : Type} [Navigable ν]

namespace Navigable

/-- Going from member to member ends at the value; where an object is absent it is null. -/
inductive Reads : ν → List String → Scalar → Prop
  | leaf {n : ν} {name : String} {v : Scalar} (h : member? n name = some (.scalar v)) :
    Reads n [name] v
  | absent {n : ν} {name : String} {names : List String} (h : member? n name = some .absent) :
    Reads n (name :: names) .null
  | step {n next : ν} {name : String} {names : List String} {v : Scalar}
    (h : member? n name = some (.object next)) (rest : Reads next names v) :
    Reads n (name :: names) v

theorem Reads.unique {n : ν} {names : List String} {v w : Scalar} (hv : Reads n names v)
    (hw : Reads n names w) : v = w := by
  induction hv with
  | leaf h =>
    cases hw with
    | leaf h' =>
      rw [h] at h'
      cases h'
      rfl
    | absent h' => simp [h] at h'
    | step h' => simp [h] at h'
  | absent h =>
    cases hw with
    | leaf h' => simp [h] at h'
    | absent => rfl
    | step h' => simp [h] at h'
  | step h _ ih =>
    cases hw with
    | leaf h' => simp [h] at h'
    | absent h' => simp [h] at h'
    | step h' rest =>
      rw [h] at h'
      cases h'
      exact ih rest

theorem readPath_of_scalar {n : ν} {name : String} {v : Scalar}
    (h : member? n name = some (.scalar v)) : readPath n [name] = v := by
  simp [readPath, h]

theorem readPath_cons_of_absent {n : ν} {name : String} (names : List String)
    (h : member? n name = some .absent) : readPath n (name :: names) = .null := by
  simp [readPath, h]

theorem readPath_cons_of_object {n next : ν} {name : String} {names : List String}
    (h : member? n name = some (.object next)) (hne : names ≠ []) :
    readPath n (name :: names) = readPath next names := by
  cases names with
  | nil => exact absurd rfl hne
  | cons r rs => simp [readPath, h]

end Navigable

theorem Scalar.isNull_iff {v : Scalar} : v.isNull = true ↔ v = .null := by
  cases v <;> simp [isNull]

/-- The value is of the kind, or null where that is allowed. -/
def Scalar.Fits (v : Scalar) (kind : Kind) (nullable : Bool) : Prop :=
  v.kind? = some kind ∨ v = .null ∧ nullable = true

namespace Schema

variable (s : Schema τ)

/-- Every object that is met on the way answers as its type declares: with a value that fits, with
an object, or with none if it may be absent. -/
inductive ConformsAlong : τ → ν → List String → Prop
  | scalar {t : τ} {n : ν} {name : String} {kind : Kind} {nullable : Bool} {v : Scalar}
    (hd : s.Declares t name (.scalar kind nullable)) (hm : member? n name = some (.scalar v))
    (hv : v.Fits kind nullable) : ConformsAlong t n [name]
  | absent {t u : τ} {n : ν} {name : String} {names : List String}
    (hd : s.Declares t name (.object u true)) (hm : member? n name = some .absent) :
    ConformsAlong t n (name :: names)
  | object {t u : τ} {n next : ν} {name : String} {names : List String} {nullable : Bool}
    (hd : s.Declares t name (.object u nullable)) (hm : member? n name = some (.object next))
    (rest : ConformsAlong u next names) : ConformsAlong t n (name :: names)

variable {s} {t : τ} {n : ν} {names : List String} {kind : Kind} {nullable : Bool}

theorem ConformsAlong.ne_nil (h : s.ConformsAlong t n names) : names ≠ [] := by
  cases h <;> exact List.cons_ne_nil _ _

theorem ConformsAlong.reads (h : s.ConformsAlong t n names) :
    Navigable.Reads n names (readPath n names) := by
  induction h with
  | scalar _ hm _ =>
    rw [Navigable.readPath_of_scalar hm]
    exact .leaf hm
  | absent _ hm =>
    rw [Navigable.readPath_cons_of_absent _ hm]
    exact .absent hm
  | object _ hm rest ih =>
    rw [Navigable.readPath_cons_of_object hm rest.ne_nil]
    exact .step hm ih

/-- The value fits what the names lead to: an object is absent only where that was declared. -/
theorem ConformsAlong.fits (h : s.ConformsAlong t n names) (hl : s.Leads t names kind nullable) :
    (readPath n names).Fits kind nullable := by
  induction h generalizing kind nullable with
  | scalar hd hm hv =>
    rw [Navigable.readPath_of_scalar hm]
    cases hl with
    | leaf hd' =>
      cases hd.unique hd'
      exact hv
    | through hd' _ => cases hd.unique hd'
  | absent hd hm =>
    rw [Navigable.readPath_cons_of_absent _ hm]
    cases hl with
    | leaf hd' => cases hd.unique hd'
    | through hd' _ =>
      cases hd.unique hd'
      exact .inr ⟨rfl, rfl⟩
  | object hd hm rest ih =>
    rw [Navigable.readPath_cons_of_object hm rest.ne_nil]
    cases hl with
    | leaf hd' => cases hd.unique hd'
    | through hd' hl' =>
      cases hd.unique hd'
      rcases ih hl' with hk | ⟨hv, hn⟩
      · exact .inl hk
      · exact .inr ⟨hv, by simp [hn]⟩

end Schema

/-! Tests for null -/

theorem Kind.allows_nullness (k : Kind) :
    k.allows .isNull = true ∧ k.allows .isNotNull = true := by
  cases k <;> decide

namespace Mapping

variable {m : Mapping ε} (c : Config) (raw : String)

theorem fragment_isNull : m.fragment c .isNull raw = .ok (m.nullCheck true) :=
  (fragment_eq_ok_iff m c raw).mpr ⟨m.kind.allows_nullness.1, rfl⟩

theorem fragment_isNotNull : m.fragment c .isNotNull raw = .ok (m.nullCheck false) :=
  (fragment_eq_ok_iff m c raw).mpr ⟨m.kind.allows_nullness.2, rfl⟩

end Mapping

namespace Layout

variable (l : Layout τ ε ν) (r : ResolvedPath) (e : ε)

/-- What a resolved path, and every field at its end, promises of an entity. -/
structure ReadsAsDeclared : Prop where
  reads_iff : ∀ v, Navigable.Reads (l.node e) r.segments v ↔ v = l.reader r e
  kind_or_null : (l.reader r e).kind? = some r.kind ∨ l.reader r e = .null
  nullable_of_null : l.reader r e = .null → r.nullable = true
  field_reads : ∀ key required, (l.mapping key r required).read e = l.reader r e
  field_not_null : ∀ key required, (l.mapping key r required).nullable = false →
    (l.mapping key r required).read e ≠ .null
  isNull : ∀ key required c raw, ∃ p, (l.mapping key r required).fragment c .isNull raw = .ok p ∧
    (p.holds e = true ↔ l.reader r e = .null)
  isNotNull : ∀ key required c raw,
    ∃ p, (l.mapping key r required).fragment c .isNotNull raw = .ok p ∧
      (p.holds e = true ↔ l.reader r e ≠ .null)

variable {l r e}

theorem conforms_mapping (hv : (l.reader r e).Fits r.kind r.nullable) (key : String)
    (required : Bool) : (l.mapping key r required).Conforms e :=
  -- the field takes the kind and nullability of the path and reads what the path reads
  hv

/-- An entity that conforms along a path reads there as the path was resolved. -/
theorem path_reads_as_declared {path : String} (hr : l.resolve path = .ok r)
    (he : l.schema.ConformsAlong l.root (l.node e) r.segments) : l.ReadsAsDeclared r e := by
  have reads : Navigable.Reads (l.node e) r.segments (l.reader r e) := he.reads
  have fits : (l.reader r e).Fits r.kind r.nullable := he.fits (Schema.leads_of_resolve hr)
  have nullable_of_null (hv : l.reader r e = .null) : r.nullable = true := by
    rcases fits with hk | ⟨-, hn⟩
    · simp [hv, Scalar.kind?] at hk
    · exact hn
  refine ⟨fun v => ⟨fun h => h.unique reads, fun h => h ▸ reads⟩, fits.imp_right And.left,
    nullable_of_null, fun _ _ => rfl, ?_, ?_, ?_⟩
  · intro key required (hn : r.nullable = false) hv
    simp [nullable_of_null hv] at hn
  · intro key required c raw
    refine ⟨_, Mapping.fragment_isNull c raw, ?_⟩
    rw [Mapping.holds_nullCheck_iff (conforms_mapping fits key required)]
    exact Scalar.isNull_iff
  · intro key required c raw
    refine ⟨_, Mapping.fragment_isNotNull c raw, ?_⟩
    rw [Mapping.holds_nullCheck_iff (conforms_mapping fits key required), ← Bool.not_eq_true]
    exact not_congr Scalar.isNull_iff

/-- The path may go round: here from one of two friends to the other and back. -/
example :
    letI : Navigable Bool :=
      ⟨fun
        | b, "Known" => some (.scalar (.boolean b))
        | b, "Friend" => some (.object (!b))
        | _, _ => none⟩
    readPath true ["Friend", "Friend", "Known"] = .boolean true := rfl

/-- A person by the names of the line of ancestors, the person first. -/
def ancestry : List String → Node
  | [] => .mk fun _ => none
  | name :: ancestors => .mk fun
    | "Name" => some (.scalar (.string name))
    | "Parent" => some (if ancestors.isEmpty then .absent else .object (ancestry ancestors))
    | _ => none

def person : TypeDescription Unit :=
  ⟨"Person", [⟨"Name", .scalar .string false⟩, ⟨"Parent", .object () true⟩]⟩

def people : Layout Unit (List String) := ⟨fun _ => person, (), ancestry⟩

def grandparent : ResolvedPath :=
  ⟨" parent . PARENT.name", ["Parent", "Parent", "Name"], .string, true⟩

theorem grandparent_reads_as_declared :
    people.resolve " parent . PARENT.name" = .ok grandparent ∧
      people.ReadsAsDeclared grandparent ["Ada", "Anne"] ∧
      people.reader grandparent ["Ada", "Anne"] = .null ∧
      people.ReadsAsDeclared grandparent ["Ada", "Anne", "Judith"] ∧
      people.reader grandparent ["Ada", "Anne", "Judith"] = .string "Judith" := by
  have hr : people.resolve " parent . PARENT.name" = .ok grandparent := rfl
  refine ⟨hr, path_reads_as_declared hr ?_, rfl, path_reads_as_declared hr ?_, rfl⟩
  · exact .object rfl rfl (.absent rfl rfl)
  · exact .object rfl rfl (.object rfl rfl (.scalar rfl rfl (.inl rfl)))

end Layout

end Sift
