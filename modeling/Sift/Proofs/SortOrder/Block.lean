import Sift.Proofs.Scalar.Interval
import Sift.Proofs.Meaning.Laws
import Sift.Proofs.Filter
import Sift.Proofs.SortOrder

/-!
# Filters and the order of sorting

A field is sorted by the values on which its conditions are decided, text in the form in which it is
matched. So a condition that asks for an interval keeps one block of a source that is sorted by its
field, whichever way it is sorted. A field of dates that nevertheless reads dates with an offset is
sorted by instants and asked for days of wall clocks, so its days do not come in blocks.
-/

namespace Sift

variable {ε : Type}

/-! Blocks of a list -/

section Lists

variable {α : Type} {R : α → α → Prop} {p : α → Bool} {xs : List α}

theorem filter_prefix_of_between
    (hR : ∀ a b c, R a b → R b c → p a = true → p c = true → p b = true)
    {x : α} (hx : p x = true) (hs : (x :: xs).Pairwise R) : xs.filter p <+: xs := by
  induction xs with
  | nil => exact List.prefix_rfl
  | cons y ys ih =>
    obtain ⟨hxs, hys, hs⟩ := List.pairwise_cons.mp hs |>.imp_right List.pairwise_cons.mp
    cases hy : p y with
    | true =>
      rw [List.filter_cons_of_pos hy]
      have hxs' : ∀ z ∈ ys, R x z := fun z hz => hxs z (List.mem_cons_of_mem y hz)
      exact (List.prefix_cons_inj y).mpr (ih (List.pairwise_cons.mpr ⟨hxs', hs⟩))
    | false =>
      -- whatever is kept behind `y` would make `y` be kept
      have hnone : (y :: ys).filter p = [] := by
        apply List.filter_eq_nil_iff.mpr
        intro z hz hpz
        rcases List.mem_cons.mp hz with rfl | hz
        · simp [hy] at hpz
        · have := hR x y z (hxs y List.mem_cons_self) (hys z hz) hx hpz
          simp [hy] at this
      rw [hnone]
      exact List.nil_prefix

/-- What is kept of a list in order is one block, if everything between is kept. -/
theorem filter_infix_of_between
    (hR : ∀ a b c, R a b → R b c → p a = true → p c = true → p b = true)
    (hs : xs.Pairwise R) : xs.filter p <:+: xs := by
  induction xs with
  | nil => exact List.infix_rfl
  | cons x xs ih =>
    cases hx : p x with
    | true =>
      rw [List.filter_cons_of_pos hx]
      exact ((List.prefix_cons_inj x).mpr (filter_prefix_of_between hR hx hs)).isInfix
    | false =>
      rw [List.filter_cons_of_neg (by simp [hx])]
      exact (ih hs.of_cons).trans (List.suffix_cons x xs).isInfix

end Lists

/-! Values as they are sorted -/

/-- The value by which an entity is sorted: text as it is matched. -/
def TextMatching.foldValue (t : TextMatching) : Scalar → Scalar
  | .string s => .string (t.fold s)
  | v => v

namespace Scalar

variable (t : TextMatching) (v : Scalar)

theorem kind?_foldValue : (t.foldValue v).kind? = v.kind? := by
  cases v <;> rfl

theorem isNull_foldValue : (t.foldValue v).isNull = v.isNull := by
  cases v <;> rfl

theorem agreesIn_foldValue (g : Granularity) (w : Scalar) :
    (t.foldValue v).agreesIn g w = v.agreesIn g w := by
  cases v <;> rfl

theorem kind?_of_agreesIn {v w : Scalar} {g : Granularity}
    (hv : v.kind? ≠ some .dateWithOffset) (h : v.agreesIn g w = true) : v.kind? = some .date := by
  cases v with
  | date t => rfl
  | dateWithOffset t => exact absurd rfl hv
  | _ => cases h

theorem satisfiesText_foldValue (op : TextOp) (operand : String) :
    (t.foldValue v).satisfiesText op operand .ordinal = v.satisfiesText op operand t := by
  cases v <;> rfl

theorem satisfies_foldValue {w : Scalar} (hw : w.kind? ≠ some .string) (op : CompareOp) :
    (t.foldValue v).satisfies op w = v.satisfies op w := by
  cases v with
  | string s =>
    cases w with
    | string _ => exact absurd rfl hw
    | _ => rfl
  | _ => rfl

theorem isWithin_foldValue {low high : Scalar} (hl : low.kind? ≠ some .string)
    (hh : high.kind? ≠ some .string) : (t.foldValue v).isWithin low high = v.isWithin low high := by
  simp only [isWithin, satisfies_foldValue t v hl, satisfies_foldValue t v hh]

end Scalar

namespace SortKey

variable {k : SortKey ε} {a b : ε}

theorem extract_eq (k : SortKey ε) (e : ε) :
    k.extract e = k.matching.foldValue (k.field.read e) := by
  unfold extract TextMatching.foldValue
  split <;> simp_all

theorem compareBy_ascending (hd : k.direction = .ascending) :
    k.compareBy a b = (k.extract a).totalCompare (k.extract b) := by
  simp [compareBy, compareValues, hd]

theorem compareBy_descending (hd : k.direction = .descending) :
    k.compareBy a b = (k.extract b).totalCompare (k.extract a) := by
  simp only [compareBy, compareValues, hd]
  exact Std.OrientedCmp.eq_swap.symm

end SortKey

/-! Conditions on a field -/

namespace Operator

/-- The operators that ask for one stretch of the values of a field. -/
def intervalOperators : List Operator :=
  [equals, lessThan, lessThanOrEqual, greaterThan, greaterThanOrEqual, isBefore, isAfter, between,
   startsWith]

end Operator

namespace Mapping

section Definitions

variable (m : Mapping ε)

/-- The operator asks for a stretch of values, or on a field of dates for the days of a year, a month
or a date. -/
def AsksForInterval (op : Operator) : Prop :=
  op ∈ Operator.intervalOperators ∨ op.toClass = .granularity ∧ m.kind = .date

/-- An operator that asks for days meets no date with an offset: its days are those of a wall clock,
and it is sorted by its instant. -/
def MeetsNoOffset (op : Operator) (e : ε) : Prop :=
  op.toClass = .granularity → (m.read e).kind? ≠ some .dateWithOffset

/-- The predicate holds of all entities whose values, as they are sorted, lie in an interval, and of
no others in the scope. -/
def IsIntervalOn (t : TextMatching) (scope : ε → Prop) (q : Predicate ε) : Prop :=
  ∃ P, Scalar.IsInterval P ∧ (∀ e, P (t.foldValue (m.read e)) → q.holds e = true) ∧
    ∀ e, scope e → q.holds e = true → P (t.foldValue (m.read e))

end Definitions

variable {m : Mapping ε} {c : Config} {raw : String} {t : TextMatching} {scope : ε → Prop}
  {p q : Predicate ε}

theorem isIntervalOn_of_iff {P : Scalar → Prop} (hP : Scalar.IsInterval P)
    (h : ∀ e, q.holds e = true ↔ P (t.foldValue (m.read e))) : m.IsIntervalOn t scope q :=
  ⟨P, hP, fun e => (h e).mpr, fun e _ => (h e).mp⟩

theorem IsIntervalOn.guarded (hq : m.IsIntervalOn t scope q) :
    m.IsIntervalOn t scope (m.guarded q) := by
  obtain ⟨P, hP, hin, hout⟩ := hq
  cases hn : m.nullable with
  | true =>
    refine ⟨_, Scalar.isInterval_isNotNull.and hP, ?_, ?_⟩
    · rintro e ⟨hv, he⟩
      rw [Scalar.isNull_foldValue] at hv
      rw [holds_guarded, hn, hv, hin e he]
      rfl
    · intro e hs hh
      rw [holds_guarded, hn, Bool.and_eq_true] at hh
      rw [Scalar.isNull_foldValue]
      exact ⟨by simpa using hh.1, hout e hs hh.2⟩
  | false =>
    have hguard : ∀ e, (m.guarded q).holds e = q.holds e := by simp [holds_guarded, hn]
    refine ⟨P, hP, ?_, ?_⟩
    · intro e he
      rw [hguard, hin e he]
    · intro e hs hh
      rw [hguard] at hh
      exact hout e hs hh

theorem isIntervalOn_text {op : TextOp} (hop : op = .equals ∨ op = .startsWith) :
    m.IsIntervalOn c.textMatching scope (m.text c op raw) := by
  have hP : Scalar.IsInterval fun v =>
      v.satisfiesText op (c.textMatching.fold raw) .ordinal = true := by
    rcases hop with rfl | rfl
    · exact Scalar.isInterval_equals _
    · exact Scalar.isInterval_startsWith _
  refine isIntervalOn_of_iff hP fun e => ?_
  rw [text, Predicate.holds, ← Scalar.satisfiesText_foldValue]
  rfl

theorem ne_string_of_read {w : Scalar} (hk : m.kind ≠ .string)
    (hw : Scalar.read m.kind raw = some w) : w.kind? ≠ some .string := by
  rw [Scalar.kind?_of_read hw]
  exact fun h => hk (Option.some.inj h)

theorem isIntervalOn_compare {op : CompareOp} (hop : op ≠ .ne) (hk : m.kind ≠ .string)
    (hq : m.compare op raw = .ok q) : m.IsIntervalOn t scope q := by
  obtain ⟨w, hw, rfl⟩ := compare_eq_ok_iff.mp hq
  refine isIntervalOn_of_iff (Scalar.isInterval_satisfies op hop w) fun e => ?_
  rw [Scalar.satisfies_foldValue t _ (ne_string_of_read hk hw), Predicate.holds_compare]
  rfl

theorem isIntervalOn_within (hk : m.kind ≠ .string) (hq : m.within c raw = .ok q) :
    m.IsIntervalOn t scope q := by
  obtain ⟨low, high, hr, rfl⟩ := within_eq_ok_iff.mp hq
  obtain ⟨_, _, _, hl, hh⟩ := readRange_eq_ok_iff.mp hr
  refine isIntervalOn_of_iff (Scalar.isInterval_isWithin low high) fun e => ?_
  rw [Scalar.isWithin_foldValue t _ (ne_string_of_read hk hl) (ne_string_of_read hk hh),
    Predicate.holds_within]
  rfl

theorem isIntervalOn_datePart {g : Granularity}
    (hd : ∀ e, scope e → (m.read e).kind? ≠ some .dateWithOffset)
    (hq : m.datePart g raw = .ok q) : m.IsIntervalOn t scope q := by
  obtain ⟨w, hw, rfl⟩ := datePart_eq_ok_iff.mp hq
  refine ⟨_, Scalar.isInterval_agreesIn g w, ?_, ?_⟩
  · rintro e ⟨-, h⟩
    rwa [Scalar.agreesIn_foldValue] at h
  · intro e hs h
    rw [Scalar.kind?_foldValue, Scalar.agreesIn_foldValue]
    exact ⟨Scalar.kind?_of_agreesIn (hd e hs) h, h⟩

theorem isIntervalOn_orderedCondition {op : Operator} (hop : m.AsksForInterval op)
    (hk : m.kind ≠ .string) (hallows : m.kind.allows op = true)
    (hq : m.orderedCondition c raw op = .ok q) :
    m.IsIntervalOn t (m.MeetsNoOffset op) q := by
  rcases hop with hop | ⟨hc, -⟩
  · cases op
    case equals | lessThan | lessThanOrEqual | greaterThan | greaterThanOrEqual | isBefore
        | isAfter =>
      exact isIntervalOn_compare (by decide) hk hq
    case between => exact isIntervalOn_within hk hq
    case startsWith => exact absurd (m.kind.eq_string_of_allows _ (by decide) hallows) hk
    all_goals exact absurd hop (by decide)
  · have hd : ∀ e, m.MeetsNoOffset op e → (m.read e).kind? ≠ some .dateWithOffset :=
      fun e he => he hc
    cases op <;> cases hc <;> exact isIntervalOn_datePart hd hq

theorem isIntervalOn_textCondition {op : Operator} (hop : op ∈ Operator.intervalOperators)
    (hallows : op ∈ stringOperators) :
    m.IsIntervalOn c.textMatching scope (m.textCondition c raw op) := by
  cases op
  case equals => exact isIntervalOn_text (.inl rfl)
  case startsWith => exact isIntervalOn_text (.inr rfl)
  all_goals first
    | exact absurd hop (by decide)
    | exact absurd hallows (by decide)

theorem conforms_ofFunction {α : Type} [ScalarType α] (key : String) (read : ε → α)
    (required : Bool) (e : ε) : (ofFunction key read required).Conforms e :=
  (ScalarType.kind_toScalar (read e)).imp_right And.symm

/-- A field that reads what it promises meets a date with an offset only if it is of such dates. -/
theorem Conforms.meetsNoOffset {e : ε} (he : m.Conforms e) (hk : m.kind ≠ .dateWithOffset)
    (op : Operator) : m.MeetsNoOffset op e := by
  intro _ hv
  rcases he with h | ⟨h, -⟩
  · exact hk (Option.some.inj (h.symm.trans hv))
  · rw [h] at hv
    cases hv

theorem AsksForInterval.mem_of_string {op : Operator} (hop : m.AsksForInterval op)
    (hk : m.kind = .string) : op ∈ Operator.intervalOperators := by
  rcases hop with hop | ⟨-, hd⟩
  · exact hop
  · rw [hk] at hd
    cases hd

theorem AsksForInterval.ne_isNull {op : Operator} (hop : m.AsksForInterval op) :
    op ≠ .isNull ∧ op ≠ .isNotNull := by
  constructor <;>
  · rintro rfl
    rcases hop with hop | ⟨hc, -⟩
    · exact absurd hop (by decide)
    · cases hc

theorem isIntervalOn_fragment {op : Operator} (hop : m.AsksForInterval op)
    (hp : m.fragment c op raw = .ok p) :
    m.IsIntervalOn c.textMatching (m.MeetsNoOffset op) p := by
  obtain ⟨hallows, hp⟩ := (fragment_eq_ok_iff m c raw).mp hp
  rcases allowedFragment_cases m c raw hp with ⟨h, -⟩ | ⟨h, -⟩ | ⟨-, -, q, hq, rfl⟩
  · exact absurd h hop.ne_isNull.1
  · exact absurd h hop.ne_isNull.2
  apply IsIntervalOn.guarded
  unfold condition at hq
  split at hq
  · rename_i hk
    cases hq
    rw [hk] at hallows
    exact isIntervalOn_textCondition (hop.mem_of_string hk) (of_decide_eq_true hallows)
  · rename_i hk
    exact isIntervalOn_orderedCondition hop hk hallows hq

/-- The order by the field alone. -/
def order (m : Mapping ε) (t : TextMatching) (d : SortDirection) : SortOrder ε := ⟨[⟨m.ref, d, t⟩]⟩

theorem compare_order (m : Mapping ε) (t : TextMatching) (d : SortDirection) (x y : ε) :
    (m.order t d).compare x y = SortKey.compareBy ⟨m.ref, d, t⟩ x y := by
  rw [SortOrder.compare, order, compareEntities_cons, compareEntities, Ordering.then_eq]

/-- Forwards or backwards, an entity between two that are kept is kept. -/
theorem IsIntervalOn.holds_of_between (hq : m.IsIntervalOn t scope q) (d : SortDirection)
    {x y z : ε} (hsx : scope x) (hsz : scope z) (hxy : (m.order t d).compare x y ≠ .gt)
    (hyz : (m.order t d).compare y z ≠ .gt) (hx : q.holds x = true) (hz : q.holds z = true) :
    q.holds y = true := by
  obtain ⟨P, hP, hin, hout⟩ := hq
  have hPx := hout x hsx hx
  have hPz := hout z hsz hz
  apply hin
  rw [SortOrder.ne_gt_iff_isLE, compare_order] at hxy hyz
  cases d with
  | ascending =>
    rw [SortKey.compareBy_ascending rfl, SortKey.extract_eq, SortKey.extract_eq] at hxy hyz
    exact hP _ _ _ hxy hyz hPx hPz
  | descending =>
    rw [SortKey.compareBy_descending rfl, SortKey.extract_eq, SortKey.extract_eq] at hxy hyz
    exact hP _ _ _ hyz hxy hPz hPx

theorem IsIntervalOn.filter_infix (hq : m.IsIntervalOn t scope q) (d : SortDirection)
    {xs : List ε} (hs : ∀ e ∈ xs, q.holds e = true → scope e)
    (hxs : xs.Pairwise fun a b => (m.order t d).compare a b ≠ .gt) :
    xs.filter q.holds <:+: xs := by
  apply filter_infix_of_between _ (List.Pairwise.and_mem.mp hxs)
  rintro a b c ⟨ha, -, hab⟩ ⟨-, hc, hbc⟩ hpa hpc
  exact hq.holds_of_between d (hs a ha hpa) (hs c hc hpc) hab hbc hpa hpc

end Mapping

namespace Registry

variable {r : Registry ε} {s : SortCriterion} {m : Mapping ε} {op : Operator} {raw : String}
  {p : Predicate ε}

theorem compileOrder_single (hs : r.sorts = [s]) (hl : r.lookup s.field = some m) :
    r.compileOrder.value = .ok (m.order r.config.textMatching s.direction) := by
  rw [compileOrder, value_reported]
  simp [hs, compileSorts, hl, Mapping.order]

/-- Sorting by a field and filtering by it see one order: what a criterion keeps that asks for an
interval is one block of every list in order, so of every source that was sorted. Of a criterion
that asks for days this is said where the field reads no date with an offset. -/
theorem kept_is_one_block (hs : r.sorts = [s]) (hl : r.lookup s.field = some m)
    (hop : m.AsksForInterval op) (hp : m.fragment r.config op raw = .ok p) :
    ∃ o, r.compileOrder.value = .ok o ∧
      (∀ a b c, m.MeetsNoOffset op a → m.MeetsNoOffset op c → o.compare a b ≠ .gt →
        o.compare b c ≠ .gt → p.holds a = true → p.holds c = true → p.holds b = true) ∧
      (∀ xs, (∀ e ∈ xs, p.holds e = true → m.MeetsNoOffset op e) →
        xs.Pairwise (fun a b => o.compare a b ≠ .gt) → xs.filter p.holds <:+: xs) ∧
      ∀ source, (∀ e ∈ source, p.holds e = true → m.MeetsNoOffset op e) →
        (o.sort source).filter p.holds <:+: o.sort source := by
  have hinterval := Mapping.isIntervalOn_fragment hop hp
  refine ⟨_, compileOrder_single hs hl, ?_, ?_, ?_⟩
  · intro a b c ha hc hab hbc hpa hpc
    exact hinterval.holds_of_between s.direction ha hc hab hbc hpa hpc
  · intro xs hmeets hxs
    exact hinterval.filter_infix s.direction hmeets hxs
  · intro source hmeets
    have hstable := SortOrder.isStableSort_sort (m.order r.config.textMatching s.direction) source
    apply hinterval.filter_infix s.direction _ hstable.ordered
    intro e he
    exact hmeets e (hstable.perm.mem_iff.mp he)

def born : Mapping (Option Calendar.DateTime) := .ofFunction "Born" id false

/-- A registry of births, the latest first; some are unknown. -/
def births : Registry (Option Calendar.DateTime) where
  mappings := [born]
  index := [("born", 0)]
  filters := []
  sorts := [⟨" BORN ", .descending⟩]
  config := {}

theorem births_of_a_year_are_one_block :
    births.sorts = [⟨" BORN ", .descending⟩] ∧ births.lookup " BORN " = some born ∧
      born.AsksForInterval .isEqualToYear ∧
      ∃ p, born.fragment births.config .isEqualToYear "2020-02-29" = .ok p ∧
        ∃ o, births.compileOrder.value = .ok o ∧
          (∀ a b c, o.compare a b ≠ .gt → o.compare b c ≠ .gt → p.holds a = true →
            p.holds c = true → p.holds b = true) ∧
          (∀ xs, xs.Pairwise (fun a b => o.compare a b ≠ .gt) → xs.filter p.holds <:+: xs) ∧
          ∀ source, (o.sort source).filter p.holds <:+: o.sort source := by
  have ha : born.AsksForInterval .isEqualToYear := .inr ⟨rfl, rfl⟩
  have hmeets : ∀ e, born.MeetsNoOffset .isEqualToYear e := by
    intro e
    exact (Mapping.conforms_ofFunction "Born" id false e).meetsNoOffset (by decide) _
  obtain ⟨p, hp⟩ : ∃ p, born.fragment births.config .isEqualToYear "2020-02-29" = .ok p :=
    Mapping.exists_fragment_of_no_fault (by decide) (by decide +kernel)
  obtain ⟨o, ho, hbetween, hlists, hsorted⟩ := kept_is_one_block rfl rfl ha hp
  refine ⟨rfl, rfl, ha, p, hp, o, ho, ?_, ?_, ?_⟩
  · exact fun a b c => hbetween a b c (hmeets a) (hmeets c)
  · exact fun xs => hlists xs fun e _ _ => hmeets e
  · exact fun source => hsorted source fun e _ _ => hmeets e

/-- A visit, with its time as it was noted. -/
structure Visit where
  noted : String

/-- The time has an offset, although visits are described as if it had none. -/
instance : Navigable Visit where
  member?
    | v, "Time" => (Scalar.read .dateWithOffset v.noted).map .scalar
    | _, _ => none

def visit : Layout Unit Visit Visit where
  schema := fun _ => ⟨"Visit", [⟨"Time", .scalar .date false⟩]⟩
  root := ()
  node := id

def visitTime : Mapping Visit := visit.mapping "time" ⟨"time", ["Time"], .date, false⟩ false

/-- A registry of visits, the first one first. -/
def visits : Registry Visit where
  mappings := [visitTime]
  index := [("time", 0)]
  filters := []
  sorts := [⟨"time", .ascending⟩]
  config := {}

def juneVisit : Visit := ⟨"2020-06-01T00:00:00Z"⟩

/-- Where this was noted the year is a new one, in universal time it is not. -/
def easternVisit : Visit := ⟨"2021-01-01T00:30:00+01:00"⟩

/-- A quarter of an hour later. -/
def utcVisit : Visit := ⟨"2020-12-31T23:45:00Z"⟩

/-- The visits come in order, and only the one in the middle has a wall clock in another year. -/
theorem visits_of_a_year_are_no_block :
    visit.resolve "time" = .ok ⟨"time", ["Time"], .date, false⟩ ∧ visitTime.kind = .date ∧
      visits.lookup "time" = some visitTime ∧
      ∃ p o, visitTime.fragment visits.config .isEqualToYear "2020-02-29" = .ok p ∧
        visits.compileOrder.value = .ok o ∧ o.compare juneVisit easternVisit ≠ .gt ∧
        o.compare easternVisit utcVisit ≠ .gt ∧ p.holds juneVisit = true ∧
        p.holds utcVisit = true ∧ p.holds easternVisit = false := by
  refine ⟨rfl, rfl, rfl, _, _, rfl, compileOrder_single rfl rfl, ?_⟩
  decide +kernel

end Registry

end Sift
