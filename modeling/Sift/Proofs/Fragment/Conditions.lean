import Sift.Proofs.Fragment.Refusal
import Sift.Proofs.Meaning

/-!
# What fragments are made of

An operator asks a value that is not null for one condition, for one of several, or for the denial
of these. A fragment is a test for null or such a question behind the guard against null.
-/

namespace Sift

variable {ε : Type}

theorem Kind.isTemporal_of_allows {k : Kind} {op : Operator} (hc : op.toClass = .granularity)
    (hop : k.allows op = true) : k.isTemporal = true := by
  revert hc hop
  cases op <;> cases k <;> decide

namespace Mapping

variable (m : Mapping ε) (c : Config) (raw : String)

/-- What the operators of the field's kind may ask with an operand. -/
inductive Asks : Predicate ε → Prop
  | compare (op : CompareOp) {t : String} {w : Scalar} (h : Scalar.read m.kind t = some w) :
      Asks (.compare m.ref op w)
  | text (op : TextOp) {t : String} (hk : m.kind = .string)
      (ht : t = raw ∨ t ∈ Text.splitList c.listSeparator raw) : Asks (m.text c op t)
  | within {s t : String} {low high : Scalar} (hl : Scalar.read m.kind s = some low)
      (hh : Scalar.read m.kind t = some high) : Asks (.within m.ref low high)
  | datePart (g : Granularity) {t : String} {w : Scalar} (hk : m.kind.isTemporal = true)
      (h : Scalar.read m.kind t = some w) : Asks (.datePart m.ref g w)
  | any {ps : List (Predicate ε)} (h : ∀ p ∈ ps, Asks p) : Asks (.any ps)
  | negate {p : Predicate ε} (h : Asks p) : Asks p.negate

variable {m} {c} {raw} {op : Operator} {p : Predicate ε}

theorem asks_textOneOf (hk : m.kind = .string) : m.Asks c raw (m.textOneOf c raw) := by
  apply Asks.any
  intro p hp
  obtain ⟨t, ht, rfl⟩ := List.mem_map.mp hp
  exact .text .equals hk (.inr ht)

theorem asks_textCondition (hk : m.kind = .string) :
    ∀ op ∈ stringOperators, op ≠ .isNull → op ≠ .isNotNull →
      m.Asks c raw (m.textCondition c raw op) := by
  intro op hop hnull hnotNull
  have hraw : ∀ o, m.Asks c raw (m.text c o raw) := fun o => .text o hk (.inl rfl)
  have hempty : Scalar.read m.kind "" = some (.string "") := by rw [hk]; rfl
  cases op
  case isNull => exact absurd rfl hnull
  case isNotNull => exact absurd rfl hnotNull
  case equals => exact hraw .equals
  case contains => exact hraw .contains
  case startsWith => exact hraw .startsWith
  case endsWith => exact hraw .endsWith
  case notEquals => exact (hraw .equals).negate
  case notContains => exact (hraw .contains).negate
  case isEmpty => exact .compare .eq hempty
  case isNotEmpty => exact .compare .ne hempty
  case oneOf => exact asks_textOneOf hk
  case noneOf => exact (asks_textOneOf hk).negate
  -- the others are not for strings
  all_goals exact absurd hop (by decide)

theorem asks_of_compare {o : CompareOp} (h : m.compare o raw = .ok p) : m.Asks c raw p := by
  obtain ⟨w, hw, rfl⟩ := compare_eq_ok_iff.mp h
  exact .compare o hw

theorem asks_of_datePart {g : Granularity} (hk : m.kind.isTemporal = true)
    (h : m.datePart g raw = .ok p) : m.Asks c raw p := by
  obtain ⟨w, hw, rfl⟩ := datePart_eq_ok_iff.mp h
  exact .datePart g hk hw

theorem asks_of_within (h : m.within c raw = .ok p) : m.Asks c raw p := by
  obtain ⟨low, high, hr, rfl⟩ := within_eq_ok_iff.mp h
  obtain ⟨s, t, -, hl, hh⟩ := readRange_eq_ok_iff.mp hr
  exact .within hl hh

theorem asks_of_oneOf (h : m.oneOf c raw = .ok p) : m.Asks c raw p := by
  obtain ⟨ws, hws, rfl⟩ := oneOf_eq_ok_iff.mp h
  apply Asks.any
  intro q hq
  obtain ⟨w, hw, rfl⟩ := List.mem_map.mp hq
  obtain ⟨t, -, ht⟩ := (mem_of_readList hws w).mp hw
  exact .compare .eq ht

theorem asks_of_orderedCondition (hop : m.kind.allows op = true) (hnull : op ≠ .isNull)
    (hnotNull : op ≠ .isNotNull) (h : m.orderedCondition c raw op = .ok p) : m.Asks c raw p := by
  cases op
  case isNull => exact absurd rfl hnull
  case isNotNull => exact absurd rfl hnotNull
  case between => exact asks_of_within h
  case oneOf => exact asks_of_oneOf h
  case notBetween =>
    obtain ⟨q, hq, rfl⟩ := map_eq_ok_iff.mp h
    exact (asks_of_within hq).negate
  case noneOf =>
    obtain ⟨q, hq, rfl⟩ := map_eq_ok_iff.mp h
    exact (asks_of_oneOf hq).negate
  case isEqualToYear | isEqualToYearAndMonth | isEqualToFullDate =>
    exact asks_of_datePart (Kind.isTemporal_of_allows rfl hop) h
  case equals | notEquals | lessThan | lessThanOrEqual | greaterThan | greaterThanOrEqual
      | isBefore | isAfter => exact asks_of_compare h
  -- the others are for strings only
  all_goals cases h

theorem asks_of_condition (hop : m.kind.allows op = true) (hnull : op ≠ .isNull)
    (hnotNull : op ≠ .isNotNull) (h : m.condition c raw op = .ok p) : m.Asks c raw p := by
  unfold condition at h
  split at h
  · rename_i hk
    cases h
    rw [hk] at hop
    exact asks_textCondition hk op (of_decide_eq_true hop) hnull hnotNull
  · exact asks_of_orderedCondition hop hnull hnotNull h

theorem fragment_cases (h : m.fragment c op raw = .ok p) :
    (op = .isNull ∧ p = m.nullCheck true) ∨ (op = .isNotNull ∧ p = m.nullCheck false) ∨
      (op ≠ .isNull ∧ op ≠ .isNotNull ∧ ∃ q, m.Asks c raw q ∧ p = m.guarded q) := by
  obtain ⟨hop, hp⟩ := (fragment_eq_ok_iff m c raw).mp h
  rcases m.allowedFragment_cases c raw hp with hnull | hnotNull | ⟨h₁, h₂, q, hq, hg⟩
  · exact .inl hnull
  · exact .inr (.inl hnotNull)
  · exact .inr (.inr ⟨h₁, h₂, q, asks_of_condition hop h₁ h₂ hq, hg⟩)

end Mapping

end Sift
