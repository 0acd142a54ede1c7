import Sift.Fragment
import Sift.Proofs.Except
import Sift.Proofs.Predicate

/-!
# The parts of a fragment

A fragment is the catalog's refusal, or a test for null, or the condition of its operator behind
the guard against null. The kinds with an order share one table of conditions; booleans and numbers
only allow fewer of its rows.
-/

namespace Sift

variable {ε : Type}

namespace Mapping

variable (m : Mapping ε) (c : Config) (raw : String)

/-- What an operator asks of a text. -/
def textCondition : Operator → Predicate ε
  | .equals => m.text c .equals raw
  | .notEquals => (m.text c .equals raw).negate
  | .contains => m.text c .contains raw
  | .notContains => (m.text c .contains raw).negate
  | .startsWith => m.text c .startsWith raw
  | .endsWith => m.text c .endsWith raw
  | .isEmpty => .compare m.ref .eq (.string "")
  | .isNotEmpty => .compare m.ref .ne (.string "")
  | .oneOf => m.textOneOf c raw
  | .noneOf => (m.textOneOf c raw).negate
  | .isNotNull => .always
  | _ => .never

/-- What an operator asks of a value of a kind with an order. -/
def orderedCondition : Operator → Except Error (Predicate ε)
  | .equals => m.compare .eq raw
  | .notEquals => m.compare .ne raw
  | .lessThan | .isBefore => m.compare .lt raw
  | .lessThanOrEqual => m.compare .le raw
  | .greaterThan | .isAfter => m.compare .gt raw
  | .greaterThanOrEqual => m.compare .ge raw
  | .between => m.within c raw
  | .notBetween => (m.within c raw).map .negate
  | .oneOf => m.oneOf c raw
  | .noneOf => (m.oneOf c raw).map .negate
  | .isEqualToYear => m.datePart .year raw
  | .isEqualToYearAndMonth => m.datePart .yearAndMonth raw
  | .isEqualToFullDate => m.datePart .fullDate raw
  | .isNotNull => .ok .always
  | .isNull => .ok .never
  | op => .error (m.unsupported op)

/-- What an operator asks of a value that is not null. -/
def condition (op : Operator) : Except Error (Predicate ε) :=
  if m.kind = .string then .ok (m.textCondition c raw op) else m.orderedCondition c raw op

/-- The fragment of an operator that the catalog allows. -/
def allowedFragment (op : Operator) : Except Error (Predicate ε) :=
  match op with
  | .isNull => .ok (m.nullCheck true)
  | .isNotNull => .ok (m.nullCheck false)
  | op => (m.condition c raw op).map m.guarded

theorem textFragment_eq (hk : m.kind = .string) :
    ∀ op ∈ stringOperators, m.textFragment c raw op = m.allowedFragment c raw op := by
  simp [stringOperators, textFragment, allowedFragment, condition, hk, textCondition, Except.map]

theorem booleanFragment_eq (hk : m.kind ≠ .string) :
    ∀ op ∈ booleanOperators, m.booleanFragment raw op = m.allowedFragment c raw op := by
  simp [booleanOperators, booleanFragment, allowedFragment, condition, hk, orderedCondition]

theorem numericFragment_eq (hk : m.kind ≠ .string) :
    ∀ op ∈ numericOperators, m.numericFragment c raw op = m.allowedFragment c raw op := by
  simp [numericOperators, numericFragment, allowedFragment, condition, hk, orderedCondition,
    map_map_except]

theorem temporalFragment_eq (hk : m.kind ≠ .string) :
    ∀ op ∈ temporalOperators, m.temporalFragment c raw op = m.allowedFragment c raw op := by
  simp [temporalOperators, temporalFragment, allowedFragment, condition, hk, orderedCondition,
    map_map_except]

theorem fragment_eq (op : Operator) :
    m.fragment c op raw =
      if m.kind.allows op then m.allowedFragment c raw op else .error (m.unsupported op) := by
  unfold fragment Kind.check
  split
  · rename_i h
    simp only [Kind.allows, decide_eq_true_eq] at h
    cases hk : m.kind <;> simp only [hk, Kind.operators] at h
    case string => exact m.textFragment_eq c raw hk op h
    case boolean => exact m.booleanFragment_eq c raw (by simp [hk]) op h
    case date | dateWithOffset => exact m.temporalFragment_eq c raw (by simp [hk]) op h
    all_goals exact m.numericFragment_eq c raw (by simp [hk]) op h
  · rfl

/-- A compiled criterion is a test for null or a guarded condition. -/
theorem allowedFragment_cases {op : Operator} {p : Predicate ε}
    (hp : m.allowedFragment c raw op = .ok p) :
    (op = .isNull ∧ p = m.nullCheck true) ∨ (op = .isNotNull ∧ p = m.nullCheck false) ∨
      (op ≠ .isNull ∧ op ≠ .isNotNull ∧ ∃ q, m.condition c raw op = .ok q ∧ p = m.guarded q) := by
  unfold allowedFragment at hp
  split at hp
  · cases hp
    exact .inl ⟨rfl, rfl⟩
  · cases hp
    exact .inr (.inl ⟨rfl, rfl⟩)
  · rename_i h₁ h₂
    obtain ⟨q, hq, rfl⟩ := map_eq_ok_iff.mp hp
    exact .inr (.inr ⟨h₁, h₂, q, hq, rfl⟩)

theorem fragment_eq_ok_iff {op : Operator} {p : Predicate ε} :
    m.fragment c op raw = .ok p ↔ m.kind.allows op ∧ m.allowedFragment c raw op = .ok p := by
  rw [fragment_eq]
  split <;> simp_all

/-! Operands that can be read -/

variable {m} {c} {raw}

theorem readOperand_eq_ok_iff {w : Scalar} :
    m.readOperand raw = .ok w ↔ Scalar.read m.kind raw = some w := by
  unfold readOperand
  split <;> simp_all

theorem compare_eq_ok_iff {op : CompareOp} {p : Predicate ε} :
    m.compare op raw = .ok p ↔
      ∃ w, Scalar.read m.kind raw = some w ∧ .compare m.ref op w = p := by
  simp only [compare, map_eq_ok_iff, readOperand_eq_ok_iff]

theorem datePart_eq_ok_iff {g : Granularity} {p : Predicate ε} :
    m.datePart g raw = .ok p ↔
      ∃ w, Scalar.read m.kind raw = some w ∧ .datePart m.ref g w = p := by
  simp only [datePart, map_eq_ok_iff, readOperand_eq_ok_iff]

theorem readRange_eq_ok_iff {low high : Scalar} :
    m.readRange c raw = .ok (low, high) ↔
      ∃ s t, Text.splitRange c.listSeparator raw = [s, t] ∧
        Scalar.read m.kind s = some low ∧ Scalar.read m.kind t = some high := by
  unfold readRange
  split
  · rename_i s t hs
    simp only [bind_eq_ok_iff, readOperand_eq_ok_iff, pure, Except.pure, Except.ok.injEq,
      Prod.mk.injEq, hs, List.cons.injEq]
    constructor
    · rintro ⟨low, hl, high, hh, rfl, rfl⟩
      exact ⟨s, t, ⟨rfl, rfl, trivial⟩, hl, hh⟩
    · rintro ⟨_, _, ⟨rfl, rfl, -⟩, hl, hh⟩
      exact ⟨low, hl, high, hh, rfl, rfl⟩
  · simp_all

theorem within_eq_ok_iff {p : Predicate ε} :
    m.within c raw = .ok p ↔
      ∃ low high, m.readRange c raw = .ok (low, high) ∧ .within m.ref low high = p := by
  simp only [within, map_eq_ok_iff, Prod.exists]

theorem readList_eq_ok_iff {ws : List Scalar} :
    m.readList c raw = .ok ws ↔
      (Text.splitList c.listSeparator raw).map (Scalar.read m.kind) = ws.map some :=
  mapM_eq_ok_iff (fun _ _ => readOperand_eq_ok_iff) _ _

theorem oneOf_eq_ok_iff {p : Predicate ε} :
    m.oneOf c raw = .ok p ↔
      ∃ ws, m.readList c raw = .ok ws ∧ .any (ws.map (.compare m.ref .eq)) = p := by
  simp only [oneOf, map_eq_ok_iff]

end Mapping

end Sift
