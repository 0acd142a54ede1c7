import Sift.Proofs.Fragment.Refusal
import Sift.Proofs.Meaning

/-!
# Laws of the operators

An operator is true or false of every value of the field's kind that is a number where numbers are
asked for. Of two opposite operators exactly one holds of it, and the operators that compare place
it below, at or above their operand. Of null nothing holds but the test for null.
-/

namespace Sift

open Sift.Number

variable {ε : Type}

/-- One of three conditions is met, and no other. -/
def OneOfThree (p q r : Prop) : Prop := (p ∧ ¬ q ∧ ¬ r) ∨ (¬ p ∧ q ∧ ¬ r) ∨ (¬ p ∧ ¬ q ∧ r)

namespace Scalar

/-- A pattern of a floating point kind that is no number. -/
def isNaN : Scalar → Bool
  | float32 x => x.isNaN
  | float64 x => x.isNaN
  | _ => false

/-- Two values of one kind have an order if both are numbers. -/
theorem exists_compare? {v w : Scalar} {k : Kind} (hv : v.kind? = some k) (hw : w.kind? = some k)
    (hvn : v.isNaN = false) (hwn : w.isNaN = false) : ∃ o, v.compare? w = some o := by
  have hvw : v.kind? = w.kind? := hv.trans hw.symm
  cases v <;> cases w <;> cases hvw
  case null.null => cases hv
  case float32.float32 x y | float64.float64 x y =>
    simp only [isNaN] at hvn hwn
    simp [compare?, Number.Binary.compareNumbers, hvn, hwn]
  all_goals exact ⟨_, rfl⟩

theorem kind?_of_read {k : Kind} {s : String} {w : Scalar} (h : Scalar.read k s = some w) :
    w.kind? = some k := by
  cases k <;> simp only [Scalar.read, Option.map_eq_some_iff, Option.some.injEq] at h
  case string =>
    subst h
    rfl
  all_goals
    obtain ⟨x, -, rfl⟩ := h
    rfl

/-- Only numbers are read. -/
theorem isNaN_of_read {k : Kind} {s : String} {w : Scalar} (h : Scalar.read k s = some w) :
    w.isNaN = false := by
  cases k <;> simp only [Scalar.read, Option.map_eq_some_iff, Option.some.injEq] at h
  case string =>
    subst h
    rfl
  case float32 | float64 =>
    obtain ⟨x, hx, rfl⟩ := h
    simpa [isNaN] using (Option.filter_eq_some_iff.mp hx).2
  all_goals
    obtain ⟨x, -, rfl⟩ := h
    rfl

end Scalar

namespace Operator

/-- Two operators of which one denies what the other says. -/
inductive Opposes : Operator → Operator → Prop
  | equality : Opposes equals notEquals
  | containment : Opposes contains notContains
  | emptiness : Opposes isEmpty isNotEmpty
  | membership : Opposes oneOf noneOf
  | range : Opposes between notBetween
  | nullness : Opposes isNull isNotNull

/-- The operators that ask where in the order of its kind a value stands. -/
def orderOperators : List Operator :=
  [lessThan, lessThanOrEqual, equals, greaterThanOrEqual, greaterThan]

variable {op op' : Operator} {c : Config} {k : Kind} {raw : String} {v : Scalar}

theorem Opposes.toClass_eq (h : op.Opposes op') : op.toClass = op'.toClass := by
  cases h <;> rfl

theorem Opposes.allows_eq (h : op.Opposes op') (k : Kind) : k.allows op = k.allows op' := by
  cases h <;> cases k <;> rfl

theorem Opposes.holdsOfText_iff (h : op.Opposes op') (hop : op ∈ stringOperators)
    (fold : String → String) (tokens : List String) (raw s : String) :
    op'.HoldsOfText fold tokens raw s ↔ ¬ op.HoldsOfText fold tokens raw s := by
  cases h
  case range => exact absurd hop (by decide)
  all_goals simp [HoldsOfText]

theorem Opposes.holdsOfOrdered_iff (h : op.Opposes op') (hop : k.allows op = true)
    (hk : k ≠ .string) (hcmp : op.toClass = .comparison → v.StandsTo k raw fun _ => True) :
    op'.HoldsOfOrdered c k raw v ↔ ¬ op.HoldsOfOrdered c k raw v := by
  cases h with
  | equality =>
    obtain ⟨w, o, hw, ho, -⟩ := hcmp rfl
    simp [HoldsOfOrdered, Scalar.standsTo_iff_of_read hw, ho]
  | containment => exact absurd (k.eq_string_of_allows _ (by decide) hop) hk
  | emptiness => exact absurd (k.eq_string_of_allows _ (by decide) hop) hk
  | membership => simp [HoldsOfOrdered]
  | range => rfl
  | nullness => simp [HoldsOfOrdered]

/-- Of a value that compares with the operand exactly one of two opposite operators holds. -/
theorem Opposes.holdsOf_iff (h : op.Opposes op') (hop : k.allows op = true)
    (hv : v.kind? = some k) (hcmp : op.toClass = .comparison → v.StandsTo k raw fun _ => True) :
    op'.HoldsOf c k raw v ↔ ¬ op.HoldsOf c k raw v := by
  by_cases hk : k = .string
  · subst hk
    obtain ⟨s, rfl⟩ := Scalar.eq_string_of_kind hv
    exact h.holdsOfText_iff (of_decide_eq_true hop) _ _ _ _
  · rw [holdsOf_eq_holdsOfOrdered hv hk, holdsOf_eq_holdsOfOrdered hv hk]
    exact h.holdsOfOrdered_iff hop hk hcmp

end Operator

namespace Mapping

section Matching

variable (m : Mapping ε) (c : Config) (raw : String) (op : Operator) (e : ε)

def Compiles : Prop := ∃ p, m.fragment c op raw = .ok p

/-- The criterion compiles, and its fragment holds of the entity. -/
def Matches : Prop := ∃ p, m.fragment c op raw = .ok p ∧ p.holds e = true

/-- The field reads a value of its kind, and a number if that is what the kind is of. -/
structure Regular : Prop where
  kind_eq : (m.read e).kind? = some m.kind
  isNaN_eq : (m.read e).isNaN = false

end Matching

variable {m : Mapping ε} {c : Config} {raw : String} {op op' : Operator} {e : ε}

theorem Compiles.allows (h : m.Compiles c raw op) : m.kind.allows op = true := by
  obtain ⟨p, hp⟩ := h
  exact ((fragment_eq_ok_iff m c raw).mp hp).1

theorem compiles_iff :
    m.Compiles c raw op ↔ m.kind.allows op = true ∧ m.operandFault? c raw op = none := by
  constructor
  · intro h
    refine ⟨h.allows, ?_⟩
    obtain ⟨p, hp⟩ := h
    cases hf : m.operandFault? c raw op with
    | none => rfl
    | some err =>
      have he := (fragment_eq_error_iff_of_allows (Compiles.allows ⟨p, hp⟩)).mpr hf
      rw [hp] at he
      cases he
  · rintro ⟨hop, hf⟩
    exact exists_fragment_of_no_fault hop hf

/-- Operators of one class refuse the same operands. -/
theorem operandFault?_congr (h : op.toClass = op'.toClass) :
    m.operandFault? c raw op = m.operandFault? c raw op' := by
  simp [operandFault?, h]

theorem compiles_single_iff (hc : op.toClass = .comparison) :
    m.Compiles c raw op ↔ m.kind.allows op = true ∧ ∃ w, Scalar.read m.kind raw = some w := by
  rw [compiles_iff, operandFault?_of_single (by simp [hc])]
  cases hr : Scalar.read m.kind raw with
  | none => simp [tokenFault?_cons_of_not_read hr]
  | some w => simp [tokenFault?, hr]

theorem matches_iff_holdsOf (he : m.Conforms e) :
    m.Matches c raw op e ↔ m.Compiles c raw op ∧ op.HoldsOf c m.kind raw (m.read e) := by
  constructor
  · rintro ⟨p, hp, hh⟩
    have hallowed := ((fragment_eq_ok_iff m c raw).mp hp).2
    exact ⟨⟨p, hp⟩, (holds_allowedFragment_iff hallowed he).mp hh⟩
  · rintro ⟨⟨p, hp⟩, hh⟩
    have hallowed := ((fragment_eq_ok_iff m c raw).mp hp).2
    exact ⟨p, hp, (holds_allowedFragment_iff hallowed he).mpr hh⟩

theorem Regular.conforms (he : m.Regular e) : m.Conforms e := .inl he.kind_eq

theorem Regular.exists_compare? (he : m.Regular e) {w : Scalar}
    (hw : Scalar.read m.kind raw = some w) : ∃ o, (m.read e).compare? w = some o :=
  Scalar.exists_compare? he.kind_eq (Scalar.kind?_of_read hw) he.isNaN_eq
    (Scalar.isNaN_of_read hw)

/-! Null -/

theorem not_matches_of_null (hn : m.nullable = true) (hv : m.read e = .null)
    (hop : op ≠ .isNull) : ¬ m.Matches c raw op e := by
  rw [matches_iff_holdsOf (.inr ⟨hv, hn⟩), hv]
  rintro ⟨-, h⟩
  exact hop h

/-! Opposites -/

theorem fragment_error_opposite (h : op.Opposes op') (hop : m.kind.allows op = true) (err : Error) :
    m.fragment c op raw = .error err ↔ m.fragment c op' raw = .error err := by
  have hop' : m.kind.allows op' = true := by rw [← h.allows_eq, hop]
  rw [fragment_eq_error_iff_of_allows hop, fragment_eq_error_iff_of_allows hop',
    operandFault?_congr h.toClass_eq]

theorem compiles_opposite (h : op.Opposes op') :
    m.Compiles c raw op ↔ m.Compiles c raw op' := by
  rw [compiles_iff, compiles_iff, h.allows_eq, operandFault?_congr h.toClass_eq]

theorem matches_opposite (h : op.Opposes op') (hc : m.Compiles c raw op) (he : m.Regular e) :
    m.Matches c raw op' e ↔ ¬ m.Matches c raw op e := by
  have hcmp : op.toClass = .comparison → (m.read e).StandsTo m.kind raw fun _ => True := by
    intro hcls
    obtain ⟨-, w, hw⟩ := (compiles_single_iff hcls).mp hc
    obtain ⟨o, ho⟩ := he.exists_compare? hw
    exact ⟨w, o, hw, ho, trivial⟩
  rw [matches_iff_holdsOf he.conforms, matches_iff_holdsOf he.conforms,
    h.holdsOf_iff hc.allows he.kind_eq hcmp]
  simp [hc, (compiles_opposite h).mp hc]

/-! Order -/

theorem ne_string_of_ordered (hk : m.kind.allows .lessThan = true) : m.kind ≠ .string := by
  intro h
  rw [h] at hk
  exact absurd hk (by decide)

theorem allows_order (hk : m.kind.allows .lessThan = true) :
    ∀ op ∈ Operator.orderOperators, m.kind.allows op = true := by
  revert hk
  cases m.kind <;> decide

theorem compiles_order (hk : m.kind.allows .lessThan = true)
    (hop : op ∈ Operator.orderOperators) :
    m.Compiles c raw op ↔ ∃ w, Scalar.read m.kind raw = some w := by
  have hc : ∀ op ∈ Operator.orderOperators, op.toClass = .comparison := by decide
  rw [compiles_single_iff (hc op hop), allows_order hk op hop]
  simp

/-- On an ordered kind an operator compares the value with the operand that it reads. -/
theorem matches_order_iff (hk : m.kind.allows .lessThan = true)
    (hop : op ∈ Operator.orderOperators) (he : m.Regular e) {w : Scalar}
    (hw : Scalar.read m.kind raw = some w) :
    m.Matches c raw op e ↔ op.HoldsOfOrdered c m.kind raw (m.read e) := by
  have hc : m.Compiles c raw op := (compiles_order hk hop).mpr ⟨w, hw⟩
  rw [matches_iff_holdsOf he.conforms,
    Operator.holdsOf_eq_holdsOfOrdered he.kind_eq (ne_string_of_ordered hk)]
  exact ⟨fun h => h.2, fun h => ⟨hc, h⟩⟩

section Placed

variable (hc : m.Compiles c raw .lessThan) (he : m.Regular e)
include hc he

/-- A regular value stands in one way to an operand, and each operator asks for some of the ways. -/
theorem exists_place : ∃ o : Ordering,
    (m.Matches c raw .lessThan e ↔ o = .lt) ∧ (m.Matches c raw .lessThanOrEqual e ↔ o ≠ .gt) ∧
      (m.Matches c raw .equals e ↔ o = .eq) ∧
      (m.Matches c raw .greaterThanOrEqual e ↔ o ≠ .lt) ∧
      (m.Matches c raw .greaterThan e ↔ o = .gt) := by
  have hk : m.kind.allows .lessThan = true := hc.allows
  obtain ⟨w, hw⟩ := (compiles_order hk (by decide)).mp hc
  obtain ⟨o, ho⟩ := he.exists_compare? hw
  refine ⟨o, ?_, ?_, ?_, ?_, ?_⟩ <;>
    rw [matches_order_iff hk (by decide) he hw] <;>
    simp [Operator.HoldsOfOrdered, Scalar.standsTo_iff_of_read hw, ho]

theorem matches_trichotomy :
    OneOfThree (m.Matches c raw .lessThan e) (m.Matches c raw .equals e)
      (m.Matches c raw .greaterThan e) := by
  obtain ⟨o, hlt, -, heq, -, hgt⟩ := exists_place hc he
  rw [OneOfThree, hlt, heq, hgt]
  cases o <;> simp

theorem matches_lessThanOrEqual_iff :
    m.Matches c raw .lessThanOrEqual e ↔ ¬ m.Matches c raw .greaterThan e := by
  obtain ⟨o, -, hle, -, -, hgt⟩ := exists_place hc he
  rw [hle, hgt]

theorem matches_greaterThanOrEqual_iff :
    m.Matches c raw .greaterThanOrEqual e ↔ ¬ m.Matches c raw .lessThan e := by
  obtain ⟨o, hlt, -, -, hge, -⟩ := exists_place hc he
  rw [hge, hlt]

end Placed

/-! Ranges -/

section Range

variable {low high : String} (hk : m.kind.allows .lessThan = true)
  (ht : Text.splitRange c.listSeparator raw = [low, high])
include hk ht

theorem compiles_between_iff :
    m.Compiles c raw .between ↔
      m.Compiles c low .greaterThanOrEqual ∧ m.Compiles c high .lessThanOrEqual := by
  have hb : m.kind.allows .between = true := by
    revert hk
    cases m.kind <;> decide
  have hge : m.Compiles c low .greaterThanOrEqual ↔ _ := compiles_order hk (by decide)
  have hle : m.Compiles c high .lessThanOrEqual ↔ _ := compiles_order hk (by decide)
  rw [hge, hle, compiles_iff, hb, operandFault?_of_range rfl (by rw [ht]; rfl), ht]
  cases hl : Scalar.read m.kind low with
  | none => simp [tokenFault?_cons_of_not_read hl]
  | some w => cases hh : Scalar.read m.kind high <;> simp [tokenFault?, hl, hh]

theorem matches_between_iff (he : m.Regular e) :
    m.Matches c raw .between e ↔
      m.Matches c low .greaterThanOrEqual e ∧ m.Matches c high .lessThanOrEqual e := by
  have hs := ne_string_of_ordered hk
  simp only [matches_iff_holdsOf he.conforms, compiles_between_iff hk ht,
    Operator.holdsOf_eq_holdsOfOrdered he.kind_eq hs, Operator.HoldsOfOrdered, ht,
    Scalar.liesBetween_pair]
  exact and_and_and_comm

end Range

variable (m c) in
/-- How the operators on a field are related to each other. -/
structure OperatorLaws : Prop where
  null : ∀ raw op e, m.nullable = true → m.read e = .null → op ≠ .isNull →
    ¬ m.Matches c raw op e
  opposite_refused : ∀ raw op op', op.Opposes op' → m.kind.allows op = true →
    m.kind.allows op' = true ∧
      ∀ err, m.fragment c op raw = .error err ↔ m.fragment c op' raw = .error err
  opposite : ∀ raw op op' e, op.Opposes op' → m.Compiles c raw op → m.Regular e →
    (m.Matches c raw op' e ↔ ¬ m.Matches c raw op e)
  order_compiles : m.kind.allows .lessThan = true → ∀ raw, ∀ op ∈ Operator.orderOperators,
    (m.Compiles c raw op ↔ m.Compiles c raw .lessThan)
  trichotomy : ∀ raw e, m.Compiles c raw .lessThan → m.Regular e →
    OneOfThree (m.Matches c raw .lessThan e) (m.Matches c raw .equals e)
      (m.Matches c raw .greaterThan e)
  atMost : ∀ raw e, m.Compiles c raw .lessThan → m.Regular e →
    (m.Matches c raw .lessThanOrEqual e ↔ ¬ m.Matches c raw .greaterThan e)
  atLeast : ∀ raw e, m.Compiles c raw .lessThan → m.Regular e →
    (m.Matches c raw .greaterThanOrEqual e ↔ ¬ m.Matches c raw .lessThan e)
  between_compiles : m.kind.allows .lessThan = true → ∀ raw low high,
    Text.splitRange c.listSeparator raw = [low, high] →
      (m.Compiles c raw .between ↔
        m.Compiles c low .greaterThanOrEqual ∧ m.Compiles c high .lessThanOrEqual)
  between : m.kind.allows .lessThan = true → ∀ raw low high e,
    Text.splitRange c.listSeparator raw = [low, high] → m.Regular e →
      (m.Matches c raw .between e ↔
        m.Matches c low .greaterThanOrEqual e ∧ m.Matches c high .lessThanOrEqual e)

/-- The laws hold on every field, however its operators build their fragments: by a comparison of
their own, by negating the fragment of the opposite, or by alternatives. -/
theorem operatorLaws (m : Mapping ε) (c : Config) : m.OperatorLaws c where
  null := fun _ _ _ hn hv hop => not_matches_of_null hn hv hop
  opposite_refused := fun _ _ _ h hop =>
    ⟨by rw [← h.allows_eq, hop], fragment_error_opposite h hop⟩
  opposite := fun _ _ _ _ h hc he => matches_opposite h hc he
  order_compiles := fun hk _ _ hop => by rw [compiles_order hk hop, compiles_order hk (by decide)]
  trichotomy := fun _ _ hc he => matches_trichotomy hc he
  atMost := fun _ _ hc he => matches_lessThanOrEqual_iff hc he
  atLeast := fun _ _ hc he => matches_greaterThanOrEqual_iff hc he
  between_compiles := fun hk _ _ _ ht => compiles_between_iff hk ht
  between := fun hk _ _ _ _ ht he => matches_between_iff hk ht he

/-- A value that is no number neither equals an operand nor differs from it. -/
example :
    let m : Mapping Binary64 := .ofFunction "ratio" id false
    let nan : Binary64 := .ofMagnitude .double false (BinaryFormat.double.infinity + 1)
    ∃ p q, m.fragment {} .equals "1" = .ok p ∧ m.fragment {} .notEquals "1" = .ok q ∧
      p.holds nan = false ∧ q.holds nan = false :=
  ⟨_, _, rfl, rfl, by decide, by decide⟩

end Mapping

end Sift
