import Sift.Proofs.Fragment

/-!
# Why a criterion is refused

The catalog and the families of kinds agree: an operator is unsupported exactly if the catalog does
not list it for the kind. Where it is listed only the operand can be at fault. The values of a range
are counted before they are read, and of several tokens the first that cannot be read is named.
-/

namespace Sift

variable {ε : Type}

/-- Some operators are for strings only. -/
theorem Kind.eq_string_of_allows (k : Kind) :
    ∀ op ∈ [.startsWith, .endsWith, .contains, .notContains, .isEmpty, .isNotEmpty],
      k.allows op = true → k = .string := by
  cases k <;> decide

theorem Kind.ne_string_of_allows_range {k : Kind} {op : Operator} (hc : op.toClass = .range)
    (hop : k.allows op = true) : k ≠ .string := by
  rintro rfl
  revert hc hop
  cases op <;> decide

namespace Mapping

variable (m : Mapping ε) (c : Config) (raw : String) (op : Operator)

/-- What is wrong with the first of the tokens that is no value of the field's kind. -/
def tokenFault? (tokens : List String) : Option Error :=
  (tokens.find? fun t => (Scalar.read m.kind t).isNone).map fun t => .unreadable m.key t m.kind

/-- What is wrong with an operand, by the class of the operator that it is for. -/
def operandFault? : Option Error :=
  match op.toClass with
  | .structural => none
  | .range =>
    let tokens := Text.splitRange c.listSeparator raw
    if tokens.length = 2 then m.tokenFault? tokens
    else some (.argument m.key (rangeReason c.listSeparator tokens.length))
  | .set => m.tokenFault? (Text.splitList c.listSeparator raw)
  | .comparison | .textual | .granularity => m.tokenFault? [raw]

/-- What the catalog or else the operand has against the criterion. -/
def refusal? : Option Error :=
  if m.kind.allows op then m.operandFault? c raw op else some (m.unsupported op)

variable {m} {c} {raw} {op} {e : Error}

/-! Reading tokens -/

theorem tokenFault?_eq_some_iff {tokens : List String} :
    m.tokenFault? tokens = some e ↔
      ∃ t, (tokens.find? fun t => (Scalar.read m.kind t).isNone) = some t ∧
        e = .unreadable m.key t m.kind := by
  simp only [tokenFault?, Option.map_eq_some_iff, eq_comm (a := e)]

theorem tokenFault?_cons_of_read {t : String} {w : Scalar} (h : Scalar.read m.kind t = some w)
    (ts : List String) : m.tokenFault? (t :: ts) = m.tokenFault? ts := by
  simp [tokenFault?, h]

theorem tokenFault?_cons_of_not_read {t : String} (h : Scalar.read m.kind t = none)
    (ts : List String) : m.tokenFault? (t :: ts) = some (.unreadable m.key t m.kind) := by
  simp [tokenFault?, h]

theorem tokenFault?_of_string (hk : m.kind = .string) (tokens : List String) :
    m.tokenFault? tokens = none := by
  simp [tokenFault?, hk, Scalar.read]

theorem tokenFault?_singleton :
    m.tokenFault? [raw] = some e ↔
      Scalar.read m.kind raw = none ∧ e = .unreadable m.key raw m.kind := by
  cases h : Scalar.read m.kind raw with
  | none => simp [tokenFault?_cons_of_not_read h, eq_comm]
  | some w => simp [tokenFault?, h]

theorem readOperand_of_read {t : String} {w : Scalar} (h : Scalar.read m.kind t = some w) :
    m.readOperand t = .ok w := readOperand_eq_ok_iff.mpr h

theorem readOperand_of_not_read {t : String} (h : Scalar.read m.kind t = none) :
    m.readOperand t = .error (.unreadable m.key t m.kind) := by
  simp [readOperand, h]

theorem readOperand_eq_error_iff :
    m.readOperand raw = .error e ↔ m.tokenFault? [raw] = some e := by
  rw [tokenFault?_singleton]
  cases h : Scalar.read m.kind raw with
  | none => simp [readOperand_of_not_read h, eq_comm]
  | some w => simp [readOperand_of_read h]

/-- Reading tokens one after the other stops at the first that cannot be read. -/
theorem mapM_readOperand_eq_error_iff (tokens : List String) :
    tokens.mapM m.readOperand = .error e ↔ m.tokenFault? tokens = some e := by
  induction tokens with
  | nil => simp [tokenFault?, pure, Except.pure]
  | cons t ts ih =>
    rw [List.mapM_cons]
    cases h : Scalar.read m.kind t with
    | none =>
      rw [readOperand_of_not_read h, tokenFault?_cons_of_not_read h]
      simp [bind, Except.bind]
    | some w =>
      rw [readOperand_of_read h, tokenFault?_cons_of_read h, ← ih]
      simp [bind_eq_error_iff, pure, Except.pure]

theorem readPair_eq_error_iff {low high : String} :
    (do return (← m.readOperand low, ← m.readOperand high)) = Except.error e ↔
      m.tokenFault? [low, high] = some e := by
  cases hl : Scalar.read m.kind low with
  | none =>
    rw [readOperand_of_not_read hl, tokenFault?_cons_of_not_read hl]
    simp [bind, Except.bind]
  | some w =>
    rw [readOperand_of_read hl, tokenFault?_cons_of_read hl, ← readOperand_eq_error_iff]
    simp [bind_eq_error_iff, pure, Except.pure]

theorem readList_eq_error_iff :
    m.readList c raw = .error e ↔
      m.tokenFault? (Text.splitList c.listSeparator raw) = some e :=
  mapM_readOperand_eq_error_iff _

theorem readRange_eq_error_iff (hop : op.toClass = .range) :
    m.readRange c raw = .error e ↔ m.operandFault? c raw op = some e := by
  unfold readRange operandFault?
  split
  · rename_i low high hs
    simp only [hop, hs]
    exact readPair_eq_error_iff
  · rename_i hs
    have hlen : (Text.splitRange c.listSeparator raw).length ≠ 2 := by
      intro h
      match hp : Text.splitRange c.listSeparator raw, h with
      | [low, high], _ => exact hs low high hp
    simp [hop, hlen]

/-! Conditions and fragments -/

/-- On a kind with an order the class of an operator decides how its operand is read. -/
theorem orderedCondition_eq_error_iff (hk : m.kind ≠ .string) (hop : m.kind.allows op = true) :
    m.orderedCondition c raw op = .error e ↔ m.operandFault? c raw op = some e := by
  cases op
  case equals | notEquals | lessThan | lessThanOrEqual | greaterThan | greaterThanOrEqual
      | isBefore | isAfter =>
    simp only [orderedCondition, compare, map_eq_error_iff]
    exact readOperand_eq_error_iff
  case isEqualToYear | isEqualToYearAndMonth | isEqualToFullDate =>
    simp only [orderedCondition, datePart, map_eq_error_iff]
    exact readOperand_eq_error_iff
  case between | notBetween =>
    simp only [orderedCondition, within, map_eq_error_iff]
    exact readRange_eq_error_iff rfl
  case oneOf | noneOf =>
    simp only [orderedCondition, oneOf, map_eq_error_iff]
    exact readList_eq_error_iff
  case isNull | isNotNull => simp [orderedCondition, operandFault?, Operator.toClass]
  -- the others are for strings only
  all_goals exact absurd (m.kind.eq_string_of_allows _ (by decide) hop) hk

/-- Every text is a value of a string field, and no legal operator takes a range of them. -/
theorem operandFault?_of_string (hk : m.kind = .string) (hop : m.kind.allows op = true) :
    m.operandFault? c raw op = none := by
  unfold operandFault?
  cases hc : op.toClass with
  | structural => rfl
  | range => exact absurd hk (Kind.ne_string_of_allows_range hc hop)
  | set => exact tokenFault?_of_string hk _
  | comparison | textual | granularity => exact tokenFault?_of_string hk _

theorem condition_eq_error_iff (hop : m.kind.allows op = true) :
    m.condition c raw op = .error e ↔ m.operandFault? c raw op = some e := by
  unfold condition
  split
  · rename_i hk
    simp [operandFault?_of_string hk hop]
  · rename_i hk
    exact orderedCondition_eq_error_iff hk hop

theorem allowedFragment_eq_error_iff (hop : m.kind.allows op = true) :
    m.allowedFragment c raw op = .error e ↔ m.operandFault? c raw op = some e := by
  unfold allowedFragment
  split
  · simp [operandFault?, Operator.toClass]
  · simp [operandFault?, Operator.toClass]
  · rw [map_eq_error_iff, condition_eq_error_iff hop]

theorem fragment_eq_error_iff :
    m.fragment c op raw = .error e ↔ m.refusal? c raw op = some e := by
  rw [fragment_eq, refusal?]
  split
  · rename_i hop
    exact allowedFragment_eq_error_iff hop
  · simp

theorem fragment_eq_error_iff_of_allows (hop : m.kind.allows op = true) :
    m.fragment c op raw = .error e ↔ m.operandFault? c raw op = some e := by
  rw [fragment_eq_error_iff, refusal?, if_pos hop]

theorem fragment_of_not_allows (hop : m.kind.allows op = false) :
    m.fragment c op raw = .error (m.unsupported op) := by
  rw [fragment_eq_error_iff, refusal?, if_neg (by simp [hop])]

theorem exists_fragment_of_no_fault (hop : m.kind.allows op = true)
    (h : m.operandFault? c raw op = none) : ∃ p, m.fragment c op raw = .ok p := by
  cases hf : m.fragment c op raw with
  | ok p => exact ⟨p, rfl⟩
  | error e => simp [(fragment_eq_error_iff_of_allows hop).mp hf] at h

/-! What refusals have in common -/

theorem eq_unreadable_of_tokenFault {tokens : List String} (h : m.tokenFault? tokens = some e) :
    ∃ t, e = .unreadable m.key t m.kind := by
  obtain ⟨t, -, he⟩ := tokenFault?_eq_some_iff.mp h
  exact ⟨t, he⟩

/-- An operand that is at fault has the wrong number of values or one that cannot be read. -/
theorem operandFault_cases (h : m.operandFault? c raw op = some e) :
    (∃ reason, e = .argument m.key reason) ∨ ∃ t, e = .unreadable m.key t m.kind := by
  unfold operandFault? at h
  split at h
  · cases h
  · dsimp only at h
    split at h
    · exact .inr (eq_unreadable_of_tokenFault h)
    · cases h
      exact .inl ⟨_, rfl⟩
  all_goals exact .inr (eq_unreadable_of_tokenFault h)

theorem fragment_error_cases (h : m.fragment c op raw = .error e) :
    (m.kind.allows op = false ∧ e = m.unsupported op) ∨
      (∃ reason, e = .argument m.key reason) ∨ ∃ t, e = .unreadable m.key t m.kind := by
  cases hop : m.kind.allows op with
  | false =>
    rw [fragment_of_not_allows hop] at h
    exact .inl ⟨rfl, (Except.error.inj h).symm⟩
  | true => exact .inr (operandFault_cases ((fragment_eq_error_iff_of_allows hop).mp h))

/-- The request is at fault, and the refusal is its own root. -/
theorem isClientError_of_fragment (h : m.fragment c op raw = .error e) :
    e.isClientError = true ∧ e.source? = none := by
  rcases fragment_error_cases h with ⟨-, rfl⟩ | ⟨reason, rfl⟩ | ⟨t, rfl⟩ <;> exact ⟨rfl, rfl⟩

theorem fragment_unsupported_iff :
    (∃ k o legal, m.fragment c op raw = .error (.unsupportedOperator k o legal)) ↔
      m.kind.allows op = false := by
  constructor
  · rintro ⟨k, o, legal, h⟩
    rcases fragment_error_cases h with ⟨hop, -⟩ | ⟨reason, he⟩ | ⟨t, he⟩
    · exact hop
    · cases he
    · cases he
  · intro hop
    exact ⟨_, _, _, fragment_of_not_allows hop⟩

/-! Operands by class -/

theorem operandFault?_of_range (hc : op.toClass = .range)
    (hlen : (Text.splitRange c.listSeparator raw).length = 2) :
    m.operandFault? c raw op = m.tokenFault? (Text.splitRange c.listSeparator raw) := by
  simp [operandFault?, hc, hlen]

theorem operandFault?_of_count (hc : op.toClass = .range)
    (hlen : (Text.splitRange c.listSeparator raw).length ≠ 2) :
    m.operandFault? c raw op = some (.argument m.key
      (rangeReason c.listSeparator (Text.splitRange c.listSeparator raw).length)) := by
  simp [operandFault?, hc, hlen]

theorem operandFault?_of_single (hc : op.toClass ∉ [.structural, .range, .set]) :
    m.operandFault? c raw op = m.tokenFault? [raw] := by
  cases op <;> simp [Operator.toClass, operandFault?] at hc ⊢

theorem fragment_argument_iff (hop : m.kind.allows op = true) (hc : op.toClass = .range) :
    (∃ key reason, m.fragment c op raw = .error (.argument key reason)) ↔
      (Text.splitRange c.listSeparator raw).length ≠ 2 := by
  simp only [fragment_eq_error_iff_of_allows hop]
  constructor
  · rintro ⟨key, reason, h⟩ hlen
    rw [operandFault?_of_range hc hlen] at h
    obtain ⟨t, he⟩ := eq_unreadable_of_tokenFault h
    cases he
  · intro hlen
    exact ⟨_, _, operandFault?_of_count hc hlen⟩

variable (m c op raw) in
/-- Which refusals an operator and its operand can meet, and exactly when they do. -/
structure RefusedExactly : Prop where
  unsupported_iff :
    (∃ k o legal, m.fragment c op raw = .error (.unsupportedOperator k o legal)) ↔
      m.kind.allows op = false
  unsupported_eq : m.kind.allows op = false →
    m.fragment c op raw = .error (.unsupportedOperator m.kind op m.kind.operators)
  structural : m.kind.allows op = true → op.isStructural = true →
    ∃ p, m.fragment c op raw = .ok p
  string : m.kind.allows op = true → m.kind = .string → ∃ p, m.fragment c op raw = .ok p
  argument_iff : m.kind.allows op = true → op.toClass = .range →
    ((∃ key reason, m.fragment c op raw = .error (.argument key reason)) ↔
      (Text.splitRange c.listSeparator raw).length ≠ 2)
  argument_eq : m.kind.allows op = true → op.toClass = .range →
    (Text.splitRange c.listSeparator raw).length ≠ 2 →
      m.fragment c op raw = .error (.argument m.key
        (rangeReason c.listSeparator (Text.splitRange c.listSeparator raw).length))
  range : m.kind.allows op = true → op.toClass = .range →
    (Text.splitRange c.listSeparator raw).length = 2 →
      ∀ e, m.fragment c op raw = .error e ↔
        ∃ t, ((Text.splitRange c.listSeparator raw).find? fun t =>
          (Scalar.read m.kind t).isNone) = some t ∧ e = .unreadable m.key t m.kind
  set : m.kind.allows op = true → op.toClass = .set →
    ∀ e, m.fragment c op raw = .error e ↔
      ∃ t, ((Text.splitList c.listSeparator raw).find? fun t =>
        (Scalar.read m.kind t).isNone) = some t ∧ e = .unreadable m.key t m.kind
  single : m.kind.allows op = true → op.toClass ∉ [.structural, .range, .set] →
    ∀ e, m.fragment c op raw = .error e ↔
      Scalar.read m.kind raw = none ∧ e = .unreadable m.key raw m.kind

/-- The catalog alone decides which operators are supported. No family of kinds falls back on a
refusal of its own, so that only the operand of a supported operator can be refused. -/
theorem fragment_refused_exactly (m : Mapping ε) (c : Config) (op : Operator) (raw : String) :
    m.RefusedExactly c raw op := by
  constructor
  case unsupported_iff => exact fragment_unsupported_iff
  case unsupported_eq => exact fragment_of_not_allows
  case structural =>
    intro hop hs
    have hc : op.toClass = .structural := by simpa [Operator.isStructural] using hs
    exact exists_fragment_of_no_fault hop (by simp [operandFault?, hc])
  case string =>
    intro hop hk
    exact exists_fragment_of_no_fault hop (operandFault?_of_string hk hop)
  case argument_iff => exact fragment_argument_iff
  case argument_eq =>
    intro hop hc hlen
    exact (fragment_eq_error_iff_of_allows hop).mpr (operandFault?_of_count hc hlen)
  case range =>
    intro hop hc hlen e
    rw [fragment_eq_error_iff_of_allows hop, operandFault?_of_range hc hlen,
      tokenFault?_eq_some_iff]
  case set =>
    intro hop hc e
    rw [fragment_eq_error_iff_of_allows hop, ← tokenFault?_eq_some_iff]
    simp [operandFault?, hc]
  case single =>
    intro hop hc e
    rw [fragment_eq_error_iff_of_allows hop, operandFault?_of_single hc, tokenFault?_singleton]

end Mapping

end Sift
