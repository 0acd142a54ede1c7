import Sift.Proofs.Scalar.Order
import Sift.Proofs.Meaning

/-!
# Conditions that are intervals of the order of sorting

A condition is an interval if it holds of everything between two values of which it holds. Values
between two of one kind are of that kind. So the comparisons with an operand, but not the one that
asks for a difference, are intervals, and so are the texts with a common beginning and the dates
that agree down to a granularity. Dates with an offset have no such granularity: their wall clocks
do not run in the order of the instants.
-/

namespace Sift

open Sift.Number Sift.Calendar

/-- A comparison that is no inequality and holds of two neighbours holds of what lies between. -/
theorem CompareOp.allows_of_between {α : Type} {cmp : α → α → Ordering} [Std.TransCmp cmp]
    {op : CompareOp} (hop : op ≠ .ne) {a b c w : α} (hab : (cmp a b).isLE) (hbc : (cmp b c).isLE)
    (ha : op.allows (cmp a w) = true) (hc : op.allows (cmp c w) = true) :
    op.allows (cmp b w) = true := by
  cases op with
  | ne => exact absurd rfl hop
  | eq =>
    simp only [allows, beq_iff_eq] at ha hc ⊢
    have hbw : (cmp b w).isLE := Std.TransCmp.isLE_trans hbc (Ordering.isLE_of_eq_eq hc)
    have hwb : (cmp w b).isLE :=
      Std.TransCmp.isLE_trans (Ordering.isLE_of_eq_eq (Std.OrientedCmp.eq_symm ha)) hab
    exact Std.OrientedCmp.isLE_antisymm hbw hwb
  | lt =>
    simp only [allows, beq_iff_eq] at hc ⊢
    exact Std.TransCmp.lt_of_isLE_of_lt hbc hc
  | le =>
    simp only [allows, bne_iff_ne, ne_eq, ← Ordering.isLE_iff_ne_gt] at hc ⊢
    exact Std.TransCmp.isLE_trans hbc hc
  | gt =>
    simp only [allows, beq_iff_eq] at ha ⊢
    exact Std.OrientedCmp.gt_of_lt (Std.TransCmp.lt_of_lt_of_isLE (Std.OrientedCmp.lt_of_gt ha) hab)
  | ge =>
    simp only [allows, bne_iff_ne, ne_eq, ← Ordering.isGE_iff_ne_lt] at ha ⊢
    have hwa : (cmp w a).isLE := Std.OrientedCmp.isLE_of_isGE ha
    exact Std.OrientedCmp.isGE_of_isLE (Std.TransCmp.isLE_trans hwa hab)

namespace Text

/-- What lies between two texts with a common beginning begins in the same way. -/
theorem prefix_of_between {p as bs cs : List Char} (hab : ¬ bs < as) (hbc : ¬ cs < bs)
    (ha : p <+: as) (hc : p <+: cs) : p <+: bs := by
  induction p generalizing as bs cs with
  | nil => exact List.nil_prefix
  | cons x p ih =>
    obtain ⟨as, rfl⟩ := ha
    obtain ⟨cs, rfl⟩ := hc
    cases bs with
    | nil => exact absurd (List.nil_lt_cons x _) hab
    | cons y bs =>
      simp only [List.cons_append, List.cons_lt_cons_iff, not_or, not_and] at hab hbc
      -- neither first letter is below the other
      obtain rfl : x = y := Char.le_antisymm (Char.not_lt.mp hab.1) (Char.not_lt.mp hbc.1)
      exact List.prefix_cons_inj x |>.mpr
        (ih (hab.2 rfl) (hbc.2 rfl) (List.prefix_append p as) (List.prefix_append p cs))

theorem not_lt_of_isLE {s t : String} (h : (compare s t).isLE) : ¬ t.toList < s.toList := by
  intro hlt
  have hts : compare t s = .lt := if_pos hlt
  exact Std.OrientedCmp.not_lt_of_isLE h hts

end Text

namespace Calendar

theorem Date.isLE_iff (d d' : Date) : (compare d d').isLE ↔
    d.year < d'.year ∨ d.year = d'.year ∧
      (d.month < d'.month ∨ d.month = d'.month ∧ d.day ≤ d'.day) := by
  simp only [Date.compare_eq_then, Ordering.isLE_then_iff_or, Int.compare_eq_lt,
    Int.compare_eq_eq, Nat.compare_eq_lt, Nat.compare_eq_eq, Nat.isLE_compare]

end Calendar

/-- Dates between two that agree down to a granularity agree with them. -/
theorem Granularity.projectDate_of_between (g : Granularity) {d₁ d₂ d₃ : Date}
    {part : Int × Nat × Nat} (h₁₂ : (compare d₁ d₂).isLE) (h₂₃ : (compare d₂ d₃).isLE)
    (h₁ : g.projectDate d₁ = part) (h₃ : g.projectDate d₃ = part) : g.projectDate d₂ = part := by
  rw [Date.isLE_iff] at h₁₂ h₂₃
  subst h₁
  cases g <;> simp only [projectDate, Prod.mk.injEq, and_true] at h₃ ⊢ <;> omega

namespace Scalar

/-- The condition holds of everything between two values of which it holds. -/
def IsInterval (P : Scalar → Prop) : Prop :=
  ∀ a b c, (a.totalCompare b).isLE → (b.totalCompare c).isLE → P a → P c → P b

variable {P Q : Scalar → Prop}

theorem IsInterval.and (hP : IsInterval P) (hQ : IsInterval Q) :
    IsInterval fun v => P v ∧ Q v :=
  fun a b c hab hbc ha hc => ⟨hP a b c hab hbc ha.1 hc.1, hQ a b c hab hbc ha.2 hc.2⟩

theorem isInterval_isNotNull : IsInterval fun v => v.isNull = false := by
  intro a b c hab hbc ha hc
  cases b with
  | null => cases a <;> first | cases ha; done | cases hab
  | _ => rfl

/-! Comparisons with an operand -/

theorem satisfies_iff_of_not_float {v w : Scalar} {op : CompareOp} (hn : w.isNull = false)
    (hf : w.isFloat = false) :
    v.satisfies op w = true ↔ v.kind? = w.kind? ∧ op.allows (v.totalCompare w) = true := by
  cases v <;> cases w
  case null.null => cases hn
  case float32.float32 | float64.float64 => cases hf
  all_goals first
    | exact ⟨fun h => ⟨rfl, h⟩, fun h => h.2⟩
    | exact ⟨nofun, fun h => nomatch h.1⟩

/-- The numbers that a comparison with a number allows. -/
theorem allows_compareNumbers_of_between {f : BinaryFormat} {x y z w : Binary f} {op : CompareOp}
    (hop : op ≠ .ne) (hxy : (x.compareRanks y).isLE) (hyz : (y.compareRanks z).isLE)
    (hx : (x.compareNumbers w).any op.allows = true)
    (hz : (z.compareNumbers w).any op.allows = true) :
    (y.compareNumbers w).any op.allows = true := by
  simp only [Option.any_eq_true, Binary.compareNumbers_eq_some_iff] at hx hz ⊢
  obtain ⟨o, ⟨⟨hxn, hwn⟩, rfl⟩, ha⟩ := hx
  obtain ⟨o, ⟨⟨hzn, -⟩, rfl⟩, hc⟩ := hz
  have hxy : x.rank ≤ y.rank := Int.isLE_compare.mp hxy
  have hyz : y.rank ≤ z.rank := Int.isLE_compare.mp hyz
  have hab : (compare x.place y.place).isLE :=
    Int.isLE_compare.mpr (Binary.place_le_of_rank_le hxy)
  have hbc : (compare y.place z.place).isLE :=
    Int.isLE_compare.mpr (Binary.place_le_of_rank_le hyz)
  exact ⟨_, ⟨⟨Binary.isNaN_of_between hxy hyz hxn hzn, hwn⟩, rfl⟩,
    CompareOp.allows_of_between hop hab hbc ha hc⟩

theorem kind?_of_satisfies {v w : Scalar} {op : CompareOp} (h : v.satisfies op w = true) :
    v.kind? = w.kind? := by
  cases v <;> cases w <;> first | rfl | cases h

theorem not_satisfies_null (v : Scalar) (op : CompareOp) : v.satisfies op .null = false := by
  cases v <;> rfl

theorem isInterval_satisfies (op : CompareOp) (hop : op ≠ .ne) (w : Scalar) :
    IsInterval fun v => v.satisfies op w = true := by
  intro a b c hab hbc ha hc
  have hka := kind?_of_satisfies ha
  have hkc := kind?_of_satisfies hc
  have hkb : b.kind? = w.kind? := (kind?_of_between hab hbc (hka.trans hkc.symm)).trans hkc
  cases hf : w.isFloat with
  | true =>
    cases w <;> cases hf <;> cases a <;> cases hka <;> cases c <;> cases hkc <;> cases b <;>
      cases hkb <;> exact allows_compareNumbers_of_between hop hab hbc ha hc
  | false =>
    cases hn : w.isNull with
    | true =>
      cases w <;> cases hn
      rw [not_satisfies_null] at ha
      cases ha
    | false =>
      rw [satisfies_iff_of_not_float hn hf] at ha hc ⊢
      exact ⟨hkb, CompareOp.allows_of_between hop hab hbc ha.2 hc.2⟩

theorem isInterval_isWithin (low high : Scalar) :
    IsInterval fun v => v.isWithin low high = true := by
  have h := (isInterval_satisfies .ge nofun low).and
    (isInterval_satisfies .le nofun high)
  simpa only [isWithin, Bool.and_eq_true] using h

/-! Texts and dates -/

theorem satisfiesText_equals (v : Scalar) (operand : String) :
    v.satisfiesText .equals operand .ordinal = v.satisfies .eq (.string operand) := by
  cases v with
  | string s =>
    exact Bool.eq_iff_iff.mpr (beq_iff_eq.trans (string_satisfies_eq_iff s operand).symm)
  | _ => rfl

theorem isInterval_equals (operand : String) :
    IsInterval fun v => v.satisfiesText .equals operand .ordinal = true := by
  simpa only [satisfiesText_equals] using isInterval_satisfies .eq nofun (.string operand)

theorem exists_string_of_satisfiesText {v : Scalar} {op : TextOp} {operand : String}
    (h : v.satisfiesText op operand .ordinal = true) :
    ∃ s, v = .string s ∧ op.Passes s operand := by
  cases v with
  | string s => exact ⟨s, rfl, (op.test_iff s operand).mp h⟩
  | _ => cases h

theorem isInterval_startsWith (operand : String) :
    IsInterval fun v => v.satisfiesText .startsWith operand .ordinal = true := by
  intro a b c hab hbc ha hc
  obtain ⟨s, rfl, hs⟩ := exists_string_of_satisfiesText ha
  obtain ⟨u, rfl, hu⟩ := exists_string_of_satisfiesText hc
  obtain ⟨t, rfl⟩ := eq_string_of_kind (kind?_of_between hab hbc rfl)
  have ht : TextOp.startsWith.Passes t operand :=
    Text.prefix_of_between (Text.not_lt_of_isLE hab) (Text.not_lt_of_isLE hbc) hs hu
  exact (TextOp.test_iff .startsWith t operand).mpr ht

theorem eq_date_of_kind {v : Scalar} (hk : v.kind? = some .date) : ∃ t, v = .date t := by
  cases v with
  | date t => exact ⟨t, rfl⟩
  | _ => cases hk

theorem isLE_date {t u : DateTime} (h : ((date t).totalCompare (date u)).isLE) :
    (compare t.date u.date).isLE :=
  Ordering.isLE_left_of_isLE_then h

theorem date_agreesIn_iff {t : DateTime} {g : Granularity} {w : Scalar} :
    (date t).agreesIn g w = true ↔
      ∃ d, w.day? = some d ∧ g.projectDate t.date = g.projectDate d := by
  simp [agreesIn_iff, day?]

/-- The dates without an offset that agree with another date. -/
theorem isInterval_agreesIn (g : Granularity) (w : Scalar) :
    IsInterval fun v => v.kind? = some .date ∧ v.agreesIn g w = true := by
  rintro a b c hab hbc ⟨hka, ha⟩ ⟨hkc, hc⟩
  have hkb := (kind?_of_between hab hbc (hka.trans hkc.symm)).trans hkc
  obtain ⟨t, rfl⟩ := eq_date_of_kind hka
  obtain ⟨u, rfl⟩ := eq_date_of_kind hkb
  obtain ⟨s, rfl⟩ := eq_date_of_kind hkc
  obtain ⟨d, hd, ht⟩ := date_agreesIn_iff.mp ha
  obtain ⟨d', hd', hs⟩ := date_agreesIn_iff.mp hc
  obtain rfl : d = d' := Option.some.inj (hd.symm.trans hd')
  have hu := g.projectDate_of_between (isLE_date hab) (isLE_date hbc) ht hs
  exact ⟨hkb, date_agreesIn_iff.mpr ⟨d, hd, hu⟩⟩

end Scalar

end Sift
