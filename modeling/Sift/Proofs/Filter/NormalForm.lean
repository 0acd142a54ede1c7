import Sift.Proofs.Filter
import Sift.Proofs.Fragment.Conditions
import Sift.Proofs.Predicate.NormalForm

/-!
# The form of compiled filters

Every fragment is in normal form, and it is trivial only where a field that is never null is asked
not to be null. So is the conjunction of the fragments of a registry: the filter is the identity
exactly if it asks nothing else.
-/

namespace Sift

open Predicate

variable {ε : Type}

namespace Mapping

variable {m : Mapping ε} {c : Config} {raw : String} {op : Operator} {p q : Predicate ε}

variable (p) in
/-- A condition of which a fragment is made, in front of the guard against null. -/
structure IsPlain : Prop where
  isNormal : p.IsNormal
  ne_always : p ≠ .always
  ne_never : p ≠ .never

theorem isPlain_of_leaf (hp : p.parts = []) (hall : ∀ ps, p ≠ .all ps) (ha : p ≠ .always)
    (hn : p ≠ .never) : IsPlain p := ⟨isNormal_of_leaf hp hall, ha, hn⟩

theorem isPlain_any {ps : List (Predicate ε)} (h : ∀ p ∈ ps, IsPlain p) : IsPlain (.any ps) where
  isNormal := isNormal_any fun p hp => ⟨(h p hp).isNormal, (h p hp).ne_always⟩
  ne_always := by simp
  ne_never := by simp

theorem IsPlain.negate (h : IsPlain p) : IsPlain p.negate := by
  have hroot := (isNormal_iff.mp h.isNormal).1
  refine ⟨h.isNormal.negate, ?_, ?_⟩
  · intro he
    cases p with
    | never => exact h.ne_never rfl
    | not q => exact hroot.negation q rfl (.inl he)
    | _ => cases he
  · intro he
    cases p with
    | always => exact h.ne_always rfl
    | not q => exact hroot.negation q rfl (.inr (.inl he))
    | _ => cases he

theorem Asks.isPlain (h : m.Asks c raw p) : IsPlain p := by
  induction h with
  | any _ ih => exact isPlain_any ih
  | negate _ ih => exact ih.negate
  | text op =>
    exact isPlain_of_leaf rfl (by simp [Mapping.text]) (by simp [Mapping.text])
      (by simp [Mapping.text])
  | _ => exact isPlain_of_leaf rfl (by simp) (by simp) (by simp)

/-! Fragments -/

theorem isNormal_nullCheck (m : Mapping ε) (expected : Bool) : (m.nullCheck expected).IsNormal := by
  unfold nullCheck
  split <;> exact isNormal_of_leaf rfl (by simp)

theorem isNormal_guarded (h : p.IsNormal) : (m.guarded p).IsNormal := by
  unfold guarded
  split
  · exact (isNormal_of_leaf rfl (by simp)).and h
  · exact h

theorem nullCheck_eq_always_iff {expected : Bool} :
    m.nullCheck expected = .always ↔ expected = false ∧ m.nullable = false := by
  unfold nullCheck
  cases m.nullable <;> cases expected <;> simp

theorem guarded_ne_always (h : p ≠ .always) : m.guarded p ≠ .always := by
  unfold guarded
  split
  · exact and_ne_always (by simp) h
  · exact h

/-- A fragment is in normal form, and trivial only as the test of a field that is never null. -/
theorem form_of_fragment (h : m.fragment c op raw = .ok p) :
    p.IsNormal ∧ (p = .always ↔ op = .isNotNull ∧ m.nullable = false) := by
  rcases fragment_cases h with ⟨rfl, rfl⟩ | ⟨rfl, rfl⟩ | ⟨-, hop, q, hq, rfl⟩
  · exact ⟨isNormal_nullCheck m true, by simp [nullCheck_eq_always_iff]⟩
  · exact ⟨isNormal_nullCheck m false, by simp [nullCheck_eq_always_iff]⟩
  · have hplain := hq.isPlain
    refine ⟨isNormal_guarded hplain.isNormal, ?_⟩
    constructor
    · intro he
      exact absurd he (guarded_ne_always hplain.ne_always)
    · intro he
      exact absurd he.1 hop

end Mapping

namespace Registry

variable {r : Registry ε} {f : Filter ε} {c : FilterCriterion} {p : Predicate ε}

/-- The criterion only asks a field that is never null not to be null. -/
def AsksNothing (r : Registry ε) (c : FilterCriterion) : Prop :=
  ∃ m, r.lookup c.field = some m ∧ c.operator = .isNotNull ∧ m.nullable = false

theorem HasFragment.isNormal (h : r.HasFragment c p) : p.IsNormal := by
  obtain ⟨m, -, hp⟩ := h
  exact (Mapping.form_of_fragment hp).1

theorem HasFragment.eq_always_iff (h : r.HasFragment c p) : p = .always ↔ r.AsksNothing c := by
  obtain ⟨m, hm, hp⟩ := h
  rw [(Mapping.form_of_fragment hp).2]
  constructor
  · intro he
    exact ⟨m, hm, he⟩
  · intro he
    obtain ⟨n, hn, he⟩ := he
    rw [hm] at hn
    cases hn
    exact he

theorem isNormal_of_compileFilter (hf : r.compileFilter.value = .ok f) : f.predicate.IsNormal := by
  obtain ⟨-, -, h, rfl⟩ := compileFilter_eq_ok_iff.mp hf
  apply isNormal_always.foldl_and
  intro p hp
  obtain ⟨c, -, -, hc⟩ := (mem_fragmentsOf_iff h).mp hp
  exact hc.isNormal

theorem isIdentity_iff_of_compileFilter (hf : r.compileFilter.value = .ok f) :
    f.isIdentity = true ↔ ∀ c ∈ r.filters, c ∉ f.skipped → r.AsksNothing c := by
  obtain ⟨-, -, h, rfl⟩ := compileFilter_eq_ok_iff.mp hf
  have halways : (r.addAll .identity r.filters).isIdentity = true ↔
      ∀ p ∈ r.fragmentsOf r.filters, p = .always := by
    rw [Filter.isIdentity, isAlways_iff, addAll]
    exact foldl_and_eq_always_iff.trans (and_iff_right rfl)
  rw [halways]
  constructor
  · intro hall c hc hs
    have hi := (not_mem_skipped_iff hc).mp hs
    obtain ⟨p, -, hp⟩ := hasFragment_of_accepted (h c hc) hi
    exact hp.eq_always_iff.mp (hall p ((mem_fragmentsOf_iff h).mpr ⟨c, hc, hi, hp⟩))
  · intro hall p hp
    obtain ⟨c, hc, hi, hp⟩ := (mem_fragmentsOf_iff h).mp hp
    exact hp.eq_always_iff.mpr (hall c hc ((not_mem_skipped_iff hc).mpr hi))

end Registry

variable (ε) in
/-- The laws of composed predicates, for all trees, and the form of those that are compiled. -/
structure PredicateLaws : Prop where
  and_assoc : ∀ p q r : Predicate ε, (p.and q).and r = p.and (q.and r)
  always_and : ∀ p : Predicate ε, Predicate.always.and p = p
  and_always : ∀ p : Predicate ε, p.and .always = p
  holds_and : ∀ (p q : Predicate ε) e,
    (p.and q).holds e = true ↔ p.holds e = true ∧ q.holds e = true
  leafCount_and : ∀ p q : Predicate ε, (p.and q).leafCount = p.leafCount + q.leafCount
  holds_negate : ∀ (p : Predicate ε) e, p.negate.holds e = true ↔ ¬ p.holds e = true
  leafCount_negate : ∀ p : Predicate ε, p.negate.leafCount = p.leafCount
  negate_negate : ∀ p : Predicate ε, p.NegatesPlainly → p.negate.negate = p
  isNormal_compiled : ∀ (r : Registry ε) f, r.compileFilter.value = .ok f → f.predicate.IsNormal
  isIdentity_iff : ∀ (r : Registry ε) f, r.compileFilter.value = .ok f →
    (f.isIdentity = true ↔ ∀ c ∈ r.filters, c ∉ f.skipped → r.AsksNothing c)

theorem predicateLaws (ε : Type) : PredicateLaws ε where
  and_assoc := Predicate.and_assoc
  always_and := Predicate.always_and
  and_always := Predicate.and_always
  holds_and := by
    intro p q e
    rw [Predicate.holds_and, Bool.and_eq_true]
  leafCount_and := Predicate.leafCount_and
  holds_negate := Predicate.holds_negate_iff
  leafCount_negate := Predicate.leafCount_negate
  negate_negate := fun _ h => h.negate_negate
  isNormal_compiled := fun _ _ hf => Registry.isNormal_of_compileFilter hf
  isIdentity_iff := fun _ _ hf => Registry.isIdentity_iff_of_compileFilter hf

end Sift
