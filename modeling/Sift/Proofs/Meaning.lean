import Sift.Proofs.Fragment

/-!
# What an operator says of a value

The meaning of a criterion, told on values and without predicates. A compiled criterion holds of an
entity exactly if its operator says so of the value that the field reads.
-/

namespace Sift

open Sift.Calendar

variable {ε : Type}

namespace Scalar

/-- The operand can be read, and the value compares with it in one of the wanted ways. -/
def StandsTo (v : Scalar) (k : Kind) (raw : String) (wanted : Ordering → Prop) : Prop :=
  ∃ w o, Scalar.read k raw = some w ∧ v.compare? w = some o ∧ wanted o

/-- The day of a date by its own wall clock. -/
def day? : Scalar → Option Date
  | date t => some t.date
  | dateWithOffset t => some t.wall.date
  | _ => none

/-- The operand can be read, and its day and that of the value agree. -/
def SharesDay (v : Scalar) (k : Kind) (raw : String) (agree : Date → Date → Prop) : Prop :=
  ∃ w d d', Scalar.read k raw = some w ∧ v.day? = some d ∧ w.day? = some d' ∧ agree d d'

/-- The operand has two ends, and the value is neither below the one nor above the other. -/
def LiesBetween (v : Scalar) (k : Kind) (tokens : List String) : Prop :=
  ∃ low high, tokens = [low, high] ∧ v.StandsTo k low (· ≠ .lt) ∧ v.StandsTo k high (· ≠ .gt)

theorem isNull_of_kind {v : Scalar} {k : Kind} (hk : v.kind? = some k) : v.isNull = false := by
  cases v with
  | null => cases hk
  | _ => rfl

theorem eq_string_of_kind {v : Scalar} (hk : v.kind? = some .string) : ∃ s, v = .string s := by
  cases v with
  | string s => exact ⟨s, rfl⟩
  | _ => cases hk

theorem standsTo_iff_of_read {k : Kind} {raw : String} {w : Scalar}
    (hw : Scalar.read k raw = some w) (v : Scalar) (wanted : Ordering → Prop) :
    v.StandsTo k raw wanted ↔ ∃ o, v.compare? w = some o ∧ wanted o := by
  simp [StandsTo, hw]

theorem liesBetween_pair (v : Scalar) (k : Kind) (s t : String) :
    v.LiesBetween k [s, t] ↔ v.StandsTo k s (· ≠ .lt) ∧ v.StandsTo k t (· ≠ .gt) := by
  constructor
  · rintro ⟨_, _, h, hs, ht⟩
    cases h
    exact ⟨hs, ht⟩
  · rintro ⟨hs, ht⟩
    exact ⟨s, t, rfl, hs, ht⟩

theorem agreesIn_iff (v w : Scalar) (g : Granularity) :
    v.agreesIn g w = true ↔
      ∃ d d', v.day? = some d ∧ w.day? = some d' ∧ g.projectDate d = g.projectDate d' := by
  cases v <;> cases w <;> simp [agreesIn, Granularity.project, day?]

end Scalar

namespace Operator

/-- Of the text of a string field. The tokens are those of a list operand. -/
def HoldsOfText (fold : String → String) (tokens : List String) (raw s : String) :
    Operator → Prop
  | isNotNull => True
  | isEmpty => s = ""
  | isNotEmpty => s ≠ ""
  | equals => fold s = fold raw
  | notEquals => fold s ≠ fold raw
  | contains => (fold raw).toList <:+: (fold s).toList
  | notContains => ¬ (fold raw).toList <:+: (fold s).toList
  | startsWith => (fold raw).toList <+: (fold s).toList
  | endsWith => (fold raw).toList <:+ (fold s).toList
  | oneOf => ∃ t ∈ tokens, fold s = fold t
  | noneOf => ∀ t ∈ tokens, fold s ≠ fold t
  | _ => False

/-- Of a value of any other kind. -/
def HoldsOfOrdered (c : Config) (k : Kind) (raw : String) (v : Scalar) : Operator → Prop
  | isNotNull => True
  | equals => v.StandsTo k raw (· = .eq)
  | notEquals => v.StandsTo k raw (· ≠ .eq)
  | lessThan | isBefore => v.StandsTo k raw (· = .lt)
  | lessThanOrEqual => v.StandsTo k raw (· ≠ .gt)
  | greaterThan | isAfter => v.StandsTo k raw (· = .gt)
  | greaterThanOrEqual => v.StandsTo k raw (· ≠ .lt)
  | between => v.LiesBetween k (Text.splitRange c.listSeparator raw)
  | notBetween => ¬ v.LiesBetween k (Text.splitRange c.listSeparator raw)
  | oneOf => ∃ t ∈ Text.splitList c.listSeparator raw, v.StandsTo k t (· = .eq)
  | noneOf => ∀ t ∈ Text.splitList c.listSeparator raw, ¬ v.StandsTo k t (· = .eq)
  | isEqualToYear => v.SharesDay k raw fun d d' => d.year = d'.year
  | isEqualToYearAndMonth => v.SharesDay k raw fun d d' => d.year = d'.year ∧ d.month = d'.month
  | isEqualToFullDate => v.SharesDay k raw (· = ·)
  | _ => False

/-- Only the test for null holds of null. -/
def HoldsOf (c : Config) (k : Kind) (raw : String) (op : Operator) : Scalar → Prop
  | .null => op = isNull
  | .string s =>
    op.HoldsOfText c.textMatching.fold (Text.splitList c.listSeparator raw) raw s
  | v => op.HoldsOfOrdered c k raw v

theorem holdsOf_isNull_iff {c : Config} {k : Kind} {raw : String} {v : Scalar} :
    isNull.HoldsOf c k raw v ↔ v.isNull = true := by
  cases v <;> simp [HoldsOf, HoldsOfText, HoldsOfOrdered, Scalar.isNull]

theorem holdsOf_isNotNull_iff {c : Config} {k : Kind} {raw : String} {v : Scalar} :
    isNotNull.HoldsOf c k raw v ↔ v.isNull = false := by
  cases v <;> simp [HoldsOf, HoldsOfText, HoldsOfOrdered, Scalar.isNull]

theorem holdsOf_eq_holdsOfOrdered {op : Operator} {c : Config} {k : Kind} {raw : String}
    {v : Scalar} (hk : v.kind? = some k) (hs : k ≠ .string) :
    op.HoldsOf c k raw v = op.HoldsOfOrdered c k raw v := by
  cases v <;> simp_all [Scalar.kind?, HoldsOf]

end Operator

/-- The field reads a value of its kind, or null if it may be null. -/
def Mapping.Conforms (m : Mapping ε) (e : ε) : Prop :=
  (m.read e).kind? = some m.kind ∨ m.read e = .null ∧ m.nullable = true

/-! Texts -/

namespace Mapping

variable {m : Mapping ε} {c : Config} {raw : String} {e : ε}

theorem holds_text_iff {s : String} (hs : m.read e = .string s) (op : TextOp) :
    (m.text c op raw).holds e = true ↔
      op.Passes (c.textMatching.fold s) (c.textMatching.fold raw) := by
  simp [text, Predicate.holds, ref, hs, Scalar.satisfiesText, Scalar.text?, TextOp.test_iff]

theorem holds_textOneOf_iff {s : String} (hs : m.read e = .string s) :
    (m.textOneOf c raw).holds e = true ↔
      ∃ t ∈ Text.splitList c.listSeparator raw, c.textMatching.fold s = c.textMatching.fold t := by
  simp [textOneOf, Predicate.holds_any, holds_text_iff hs, TextOp.Passes]

theorem holds_textCondition_iff {s : String} (hs : m.read e = .string s) (op : Operator) :
    (m.textCondition c raw op).holds e = true ↔
      op.HoldsOfText c.textMatching.fold (Text.splitList c.listSeparator raw) raw s := by
  cases op <;>
    simp [textCondition, Operator.HoldsOfText, Predicate.holds_negate_iff, holds_text_iff hs,
      holds_textOneOf_iff hs, TextOp.Passes, Predicate.holds, ref, hs,
      Scalar.string_satisfies_eq_iff, Scalar.string_satisfies_ne_iff]

/-! Ordered values -/

theorem holds_compare_iff {op : CompareOp} {q : Predicate ε} (hq : m.compare op raw = .ok q) :
    q.holds e = true ↔ (m.read e).StandsTo m.kind raw (op.allows · = true) := by
  obtain ⟨w, hw, rfl⟩ := compare_eq_ok_iff.mp hq
  rw [Predicate.holds_compare, Scalar.satisfies_iff, Scalar.standsTo_iff_of_read hw]
  rfl

theorem holds_within_iff {q : Predicate ε} (hq : m.within c raw = .ok q) :
    q.holds e = true ↔
      (m.read e).LiesBetween m.kind (Text.splitRange c.listSeparator raw) := by
  obtain ⟨low, high, hr, rfl⟩ := within_eq_ok_iff.mp hq
  obtain ⟨s, t, ht, hl, hh⟩ := readRange_eq_ok_iff.mp hr
  rw [ht, Scalar.liesBetween_pair, Scalar.standsTo_iff_of_read hl, Scalar.standsTo_iff_of_read hh,
    Predicate.holds_within, Scalar.isWithin, Bool.and_eq_true, Scalar.satisfies_iff,
    Scalar.satisfies_iff]
  simp [CompareOp.allows, ref]

theorem mem_of_readList {ws : List Scalar} (hw : m.readList c raw = .ok ws) (w : Scalar) :
    w ∈ ws ↔ ∃ t ∈ Text.splitList c.listSeparator raw, Scalar.read m.kind t = some w := by
  rw [← List.mem_map, readList_eq_ok_iff.mp hw]
  simp

theorem holds_oneOf_iff {q : Predicate ε} (hq : m.oneOf c raw = .ok q) :
    q.holds e = true ↔
      ∃ t ∈ Text.splitList c.listSeparator raw, (m.read e).StandsTo m.kind t (· = .eq) := by
  obtain ⟨ws, hw, rfl⟩ := oneOf_eq_ok_iff.mp hq
  simp only [Predicate.holds_any, List.any_map, List.any_eq_true, Function.comp_apply,
    Predicate.holds_compare, Scalar.satisfies_iff, mem_of_readList hw]
  constructor
  · rintro ⟨w, ⟨t, ht, hr⟩, o, ho, h⟩
    exact ⟨t, ht, w, o, hr, ho, by simpa [CompareOp.allows] using h⟩
  · rintro ⟨t, ht, w, o, hr, ho, rfl⟩
    exact ⟨w, ⟨t, ht, hr⟩, .eq, ho, rfl⟩

theorem holds_datePart_iff {g : Granularity} {q : Predicate ε} (hq : m.datePart g raw = .ok q) :
    q.holds e = true ↔
      (m.read e).SharesDay m.kind raw fun d d' => g.projectDate d = g.projectDate d' := by
  obtain ⟨w, hw, rfl⟩ := datePart_eq_ok_iff.mp hq
  simp [Predicate.holds, ref, Scalar.agreesIn_iff, Scalar.SharesDay, hw]

theorem projectDate_fullDate_iff (d d' : Date) :
    Granularity.projectDate d .fullDate = Granularity.projectDate d' .fullDate ↔ d = d' := by
  cases d
  cases d'
  simp [Granularity.projectDate]

theorem holds_orderedCondition_iff {op : Operator} {q : Predicate ε}
    (hq : m.orderedCondition c raw op = .ok q) :
    q.holds e = true ↔ op.HoldsOfOrdered c m.kind raw (m.read e) := by
  cases op
  -- each operator that compares names the orders that its predicate allows
  case equals | notEquals | lessThan | lessThanOrEqual | greaterThan | greaterThanOrEqual
      | isBefore | isAfter =>
    rw [holds_compare_iff hq]
    simp [CompareOp.allows, Operator.HoldsOfOrdered]
  case between => exact holds_within_iff hq
  case notBetween =>
    obtain ⟨p, hp, rfl⟩ := map_eq_ok_iff.mp hq
    rw [Predicate.holds_negate_iff, holds_within_iff hp]
    rfl
  case oneOf => exact holds_oneOf_iff hq
  case noneOf =>
    obtain ⟨p, hp, rfl⟩ := map_eq_ok_iff.mp hq
    rw [Predicate.holds_negate_iff, holds_oneOf_iff hp]
    simp [Operator.HoldsOfOrdered]
  case isEqualToYear | isEqualToYearAndMonth =>
    rw [holds_datePart_iff hq]
    simp [Granularity.projectDate, Operator.HoldsOfOrdered]
  case isEqualToFullDate =>
    rw [holds_datePart_iff hq]
    simp only [projectDate_fullDate_iff, Operator.HoldsOfOrdered]
  case isNotNull =>
    cases hq
    simp [Predicate.holds, Operator.HoldsOfOrdered]
  case isNull =>
    cases hq
    simp [Predicate.holds, Operator.HoldsOfOrdered]
  all_goals cases hq

theorem holds_condition_iff {op : Operator} {q : Predicate ε}
    (hq : m.condition c raw op = .ok q) (hk : (m.read e).kind? = some m.kind) :
    q.holds e = true ↔ op.HoldsOf c m.kind raw (m.read e) := by
  unfold condition at hq
  split at hq
  · rename_i hs
    cases hq
    rw [hs] at hk
    obtain ⟨s, hv⟩ := Scalar.eq_string_of_kind hk
    rw [hv]
    exact holds_textCondition_iff hv op
  · rename_i hs
    rw [holds_orderedCondition_iff hq, Operator.holdsOf_eq_holdsOfOrdered hk hs]

/-! Null -/

theorem holds_guarded (p : Predicate ε) :
    (m.guarded p).holds e = (!(m.nullable && (m.read e).isNull) && p.holds e) := by
  unfold guarded
  split <;> simp_all [Predicate.holds_and, Predicate.holds, ref]

theorem holds_nullCheck_iff (he : m.Conforms e) (expected : Bool) :
    (m.nullCheck expected).holds e = true ↔ (m.read e).isNull = expected := by
  rcases he with hk | ⟨hv, hn⟩
  · have hv := Scalar.isNull_of_kind hk
    cases hn : m.nullable <;> cases expected <;>
      simp [nullCheck, hn, Predicate.holds, ref, hv]
  · cases expected <;> simp [nullCheck, hn, Predicate.holds, ref, hv]

theorem holds_allowedFragment_iff {op : Operator} {p : Predicate ε}
    (hp : m.allowedFragment c raw op = .ok p) (he : m.Conforms e) :
    p.holds e = true ↔ op.HoldsOf c m.kind raw (m.read e) := by
  rcases allowedFragment_cases m c raw hp with ⟨rfl, rfl⟩ | ⟨rfl, rfl⟩ | ⟨h₁, h₂, q, hq, rfl⟩
  · rw [holds_nullCheck_iff he, Operator.holdsOf_isNull_iff]
  · rw [holds_nullCheck_iff he, Operator.holdsOf_isNotNull_iff]
  -- the guard lets every value pass but null, of which no condition holds
  · rcases he with hk | ⟨hv, hn⟩
    · rw [← holds_condition_iff hq hk, holds_guarded, Scalar.isNull_of_kind hk]
      simp
    · simp [holds_guarded, hv, hn, Scalar.isNull, Operator.HoldsOf, h₁]

/-- A criterion that compiles says of the entity what its operator says of the value. -/
theorem holds_fragment_iff {op : Operator} {p : Predicate ε}
    (hp : m.fragment c op raw = .ok p) (he : m.Conforms e) :
    p.holds e = true ↔ op.HoldsOf c m.kind raw (m.read e) := by
  obtain ⟨-, hallowed⟩ := (fragment_eq_ok_iff m c raw).mp hp
  exact holds_allowedFragment_iff hallowed he

theorem holds_notBetween_seven_iff :
    ∃ (m : Mapping (Option Int32)) (p : Predicate (Option Int32)),
      m.fragment {} .notBetween "1, 5" = .ok p ∧ m.Conforms (some 7) ∧
        (p.holds (some 7) = true ↔
          Operator.HoldsOf {} m.kind "1, 5" .notBetween (m.read (some 7))) :=
  ⟨.ofFunction "level" id true, _, rfl, .inl rfl, holds_fragment_iff rfl (.inl rfl)⟩

end Mapping

end Sift
