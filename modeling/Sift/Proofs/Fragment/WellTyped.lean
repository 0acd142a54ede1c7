import Sift.Proofs.Fragment.Conditions
import Sift.Proofs.Meaning.Laws
import Sift.Proofs.Predicate.NormalForm

/-!
# Fragments are well typed

The conditions of a fragment ask the field itself, with operands of its kind: texts are sought in
strings only, and days only of dates. Each of them therefore gets an answer from every value of the
kind that is a number where numbers are asked for, and none fails for want of an order or a day.
-/

namespace Sift

open Sift.Number

variable {ε : Type}

namespace Predicate

/-- The field that a condition asks. Composed predicates have none of their own. -/
def field? : Predicate ε → Option (FieldRef ε)
  | isNull f | isNotNull f | compare f _ _ | text f _ _ _ | within f _ _ | datePart f _ _ => some f
  | _ => none

/-- What a condition says of an entity, if all that it compares can be compared. -/
def answer? : Predicate ε → ε → Option Bool
  | isNull f, e => some (f.read e).isNull
  | isNotNull f, e => some !(f.read e).isNull
  | compare f op w, e => ((f.read e).compare? w).map op.allows
  | text f op s matching, e => (f.read e).text?.map fun t => op.test (matching.fold t) s
  | within f low high, e => do
    let fromLow ← (f.read e).compare? low
    let fromHigh ← (f.read e).compare? high
    return CompareOp.ge.allows fromLow && CompareOp.le.allows fromHigh
  | datePart f g w, e => do
    let actual ← g.project (f.read e)
    let expected ← g.project w
    return actual == expected
  | _, _ => none

/-- Every condition in the predicate has an answer, and holds as it answers. -/
def IsDecided (p : Predicate ε) (e : ε) : Prop :=
  ∀ (q : Predicate ε) f, q.OccursIn p → q.field? = some f → q.answer? e = some (q.holds e)

variable {p q : Predicate ε} {f : FieldRef ε} {e : ε}

/-- A condition without an answer does not hold, and any other holds as it answers. -/
theorem holds_eq_answer? (h : q.field? = some f) : q.holds e = (q.answer? e).getD false := by
  cases q with
  | isNull f => rw [holds, answer?, Option.getD_some]
  | isNotNull f => rw [holds, answer?, Option.getD_some]
  | compare f op w =>
    rw [holds, answer?, Scalar.satisfies]
    cases (f.read e).compare? w <;> rfl
  | text f op s matching =>
    rw [holds, answer?, Scalar.satisfiesText]
    cases (f.read e).text? <;> rfl
  | within f low high =>
    rw [holds, answer?, Scalar.isWithin, Scalar.satisfies, Scalar.satisfies]
    cases (f.read e).compare? low with
    | none => rfl
    | some o => cases (f.read e).compare? high <;> simp
  | datePart f g w =>
    rw [holds, answer?, Scalar.agreesIn]
    cases g.project (f.read e) with
    | none => rfl
    | some d => cases g.project w <;> rfl
  | _ => cases h

end Predicate

namespace Mapping

variable (m : Mapping ε) (c : Config) (raw : String)

/-- A value of the field's kind, and a number if that is what the kind is of. -/
structure Takes (w : Scalar) : Prop where
  kind_eq : w.kind? = some m.kind
  isNaN_eq : w.isNaN = false

/-- Every condition asks the field, in a way that its kind allows. The texts that are sought are
the operand or one of its tokens, folded. -/
inductive WellTyped : Predicate ε → Prop
  | always : WellTyped .always
  | never : WellTyped .never
  | all {ps : List (Predicate ε)} (h : ∀ p ∈ ps, WellTyped p) : WellTyped (.all ps)
  | any {ps : List (Predicate ε)} (h : ∀ p ∈ ps, WellTyped p) : WellTyped (.any ps)
  | not {p : Predicate ε} (h : WellTyped p) : WellTyped (.not p)
  | isNull : WellTyped (.isNull m.ref)
  | isNotNull : WellTyped (.isNotNull m.ref)
  | compare (op : CompareOp) {w : Scalar} (hw : m.Takes w) : WellTyped (.compare m.ref op w)
  | text (op : TextOp) {t : String} (hk : m.kind = .string)
      (ht : t = raw ∨ t ∈ Text.splitList c.listSeparator raw) :
      WellTyped (.text m.ref op (c.textMatching.fold t) c.textMatching)
  | within {low high : Scalar} (hl : m.Takes low) (hh : m.Takes high) :
      WellTyped (.within m.ref low high)
  | datePart (g : Granularity) {w : Scalar} (hk : m.kind.isTemporal = true) (hw : m.Takes w) :
      WellTyped (.datePart m.ref g w)

variable {m} {c} {raw} {op : Operator} {p q : Predicate ε} {w : Scalar} {e : ε} {t : String}

/-! Operands -/

theorem takes_of_read (h : Scalar.read m.kind t = some w) : m.Takes w :=
  ⟨Scalar.kind?_of_read h, Scalar.isNaN_of_read h⟩

theorem Regular.takes (he : m.Regular e) : m.Takes (m.read e) := ⟨he.kind_eq, he.isNaN_eq⟩

theorem Takes.exists_compare? {v : Scalar} (hv : m.Takes v) (hw : m.Takes w) :
    ∃ o, v.compare? w = some o :=
  Scalar.exists_compare? hv.kind_eq hw.kind_eq hv.isNaN_eq hw.isNaN_eq

theorem Takes.exists_text? (hw : m.Takes w) (hk : m.kind = .string) : ∃ s, w.text? = some s := by
  obtain ⟨s, rfl⟩ := Scalar.eq_string_of_kind (hk ▸ hw.kind_eq)
  exact ⟨s, rfl⟩

theorem Takes.exists_project (hw : m.Takes w) (hk : m.kind.isTemporal = true) (g : Granularity) :
    ∃ d, g.project w = some d := by
  have hkind := hw.kind_eq
  cases w with
  | date t => exact ⟨_, rfl⟩
  | dateWithOffset t => exact ⟨_, rfl⟩
  | null => cases hkind
  | _ =>
    rw [← Option.some.inj hkind] at hk
    cases hk

/-! Trees -/

theorem WellTyped.parts (h : m.WellTyped c raw p) : ∀ q ∈ p.parts, m.WellTyped c raw q := by
  cases h with
  | all h => exact h
  | any h => exact h
  | not h =>
    intro q hq
    rwa [List.mem_singleton.mp hq]
  | _ => exact nofun

theorem WellTyped.of_occursIn (h : m.WellTyped c raw p) (hq : q.OccursIn p) :
    m.WellTyped c raw q := by
  induction hq with
  | refl => exact h
  | tail _ ht ih => exact ih (h.parts _ ht)

theorem WellTyped.conjuncts (h : m.WellTyped c raw p) :
    ∀ q ∈ p.conjuncts, m.WellTyped c raw q := by
  cases p with
  | always => exact nofun
  | all ps => exact h.parts
  | _ =>
    intro q hq
    rwa [List.mem_singleton.mp hq]

theorem WellTyped.and (hp : m.WellTyped c raw p) (hq : m.WellTyped c raw q) :
    m.WellTyped c raw (p.and q) := by
  by_cases hpa : p = .always
  · rwa [hpa, Predicate.always_and]
  · by_cases hqa : q = .always
    · rwa [hqa, Predicate.and_always]
    · rw [Predicate.and_eq hpa hqa]
      apply WellTyped.all
      intro t ht
      rcases List.mem_append.mp ht with ht | ht
      · exact hp.conjuncts t ht
      · exact hq.conjuncts t ht

theorem WellTyped.negate (h : m.WellTyped c raw p) : m.WellTyped c raw p.negate := by
  unfold Predicate.negate
  split
  · exact .never
  · exact .always
  · cases h with
    | not h => exact h
  · exact .not h

/-! Fragments -/

theorem wellTyped_nullCheck (m : Mapping ε) (expected : Bool) :
    m.WellTyped c raw (m.nullCheck expected) := by
  unfold nullCheck
  split
  · exact .isNull
  · exact .isNotNull
  · exact .never
  · exact .always

theorem WellTyped.guarded (h : m.WellTyped c raw p) : m.WellTyped c raw (m.guarded p) := by
  unfold Mapping.guarded
  split
  · exact WellTyped.isNotNull.and h
  · exact h

theorem Asks.wellTyped (h : m.Asks c raw p) : m.WellTyped c raw p := by
  induction h with
  | compare op h => exact .compare op (takes_of_read h)
  | text op hk ht => exact .text op hk ht
  | within hl hh => exact .within (takes_of_read hl) (takes_of_read hh)
  | datePart g hk h => exact .datePart g hk (takes_of_read h)
  | any _ ih => exact .any ih
  | negate _ ih => exact ih.negate

theorem wellTyped_of_fragment (h : m.fragment c op raw = .ok p) : m.WellTyped c raw p := by
  rcases fragment_cases h with ⟨-, rfl⟩ | ⟨-, rfl⟩ | ⟨-, -, q, hq, rfl⟩
  · exact wellTyped_nullCheck m true
  · exact wellTyped_nullCheck m false
  · exact hq.wellTyped.guarded

/-! Answers -/

theorem WellTyped.exists_answer? (h : m.WellTyped c raw q) (he : m.Regular e) {f : FieldRef ε}
    (hf : q.field? = some f) : ∃ b, q.answer? e = some b := by
  have hread : m.ref.read e = m.read e := rfl
  cases h with
  | isNull => exact ⟨_, rfl⟩
  | isNotNull => exact ⟨_, rfl⟩
  | compare op hw =>
    obtain ⟨o, ho⟩ := he.takes.exists_compare? hw
    exact ⟨_, by rw [Predicate.answer?, hread, ho, Option.map_some]⟩
  | text op hk ht =>
    obtain ⟨s, hs⟩ := he.takes.exists_text? hk
    exact ⟨_, by rw [Predicate.answer?, hread, hs, Option.map_some]⟩
  | within hl hh =>
    obtain ⟨o, ho⟩ := he.takes.exists_compare? hl
    obtain ⟨o', ho'⟩ := he.takes.exists_compare? hh
    exact ⟨_, by rw [Predicate.answer?, hread, ho, ho']; rfl⟩
  | datePart g hk hw =>
    obtain ⟨d, hd⟩ := he.takes.exists_project hk g
    obtain ⟨d', hd'⟩ := hw.exists_project hk g
    exact ⟨_, by rw [Predicate.answer?, hread, hd, hd']; rfl⟩
  | _ => cases hf

/-- A fragment is well typed, and where the field reads a regular value all of it is decided. -/
theorem fragment_is_wellTyped (hp : m.fragment c op raw = .ok p) :
    m.WellTyped c raw p ∧ ∀ e, m.Regular e → p.IsDecided e := by
  have htyped := wellTyped_of_fragment hp
  refine ⟨htyped, ?_⟩
  intro e he q f hq hf
  obtain ⟨b, hb⟩ := (htyped.of_occursIn hq).exists_answer? he hf
  rw [Predicate.holds_eq_answer? hf, hb, Option.getD_some]

theorem fragment_is_wellTyped_noneOf :
    ∃ (m : Mapping (Option Binary64)) (p : Predicate (Option Binary64)) (e : Option Binary64),
      m.fragment {} .noneOf "1, 2.5" = .ok p ∧ m.Regular e ∧ m.WellTyped {} "1, 2.5" p ∧
        p.IsDecided e := by
  let m : Mapping (Option Binary64) := .ofFunction "score" id true
  let infinity : Binary64 := .ofMagnitude .double false BinaryFormat.double.infinity
  have hregular : m.Regular (some infinity) := ⟨rfl, by decide⟩
  obtain ⟨p, hp⟩ : ∃ p, m.fragment {} .noneOf "1, 2.5" = .ok p := ⟨_, rfl⟩
  obtain ⟨htyped, hdecided⟩ := fragment_is_wellTyped hp
  exact ⟨m, p, some infinity, hp, hregular, htyped, hdecided _ hregular⟩

end Mapping

end Sift
