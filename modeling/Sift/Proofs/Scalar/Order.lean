import Sift.Scalar
import Sift.Proofs.Number.Binary

/-!
# The order of sorting

A value has a place: its tier, which is null's or that of its kind, and inside of the tier its text
or its numbers. `totalCompare` is the lexicographic order of places, so it is a total preorder on
values of whatever kinds, null and patterns that are no numbers among them. It refines the order
of predicates: where that sees a difference, both see the same.
-/

namespace Sift

open Sift.Number Sift.Calendar

namespace Number

theorem compare_toInt32 (a b : Int32) : compare a.toInt b.toInt = compare a b := by
  change compareOfLessAndEq a.toInt b.toInt = compareOfLessAndEq a b
  unfold compareOfLessAndEq
  simp only [Int32.lt_iff_toInt_lt, ← Int32.toInt_inj]

theorem compare_toInt64 (a b : Int64) : compare a.toInt b.toInt = compare a b := by
  change compareOfLessAndEq a.toInt b.toInt = compareOfLessAndEq a b
  unfold compareOfLessAndEq
  simp only [Int64.lt_iff_toInt_lt, ← Int64.toInt_inj]

theorem compare_natCast (a b : Nat) : compare (a : Int) (b : Int) = compare a b := by
  change compareOfLessAndEq (a : Int) (b : Int) = compareOfLessAndEq a b
  unfold compareOfLessAndEq
  simp only [Int.ofNat_lt, Int.ofNat_inj]

theorem Fixed.compare_eq_iff {a b : Fixed} : compare a b = .eq ↔ a.units = b.units := by
  have h : compare a b = compare a.units b.units := rfl
  rw [h, Std.compare_eq_iff_eq]

theorem compare_toInt (a b : Bool) : compare a.toInt b.toInt = compare a b := by
  cases a <;> cases b <;> rfl

end Number

namespace Calendar

theorem Date.compare_eq_then (d d' : Date) : compare d d' =
    (compare d.year d'.year).then ((compare d.month d'.month).then (compare d.day d'.day)) := by
  rfl

theorem DateTime.compare_eq_then (t u : DateTime) : compare t u =
    (compare t.date u.date).then
      ((compare t.clock.second u.clock.second).then (compare t.clock.nano u.clock.nano)) := by
  rfl

theorem OffsetDateTime.compare_eq_then (t u : OffsetDateTime) : compare t u =
    (compare t.seconds u.seconds).then (compare t.nano u.nano) := by
  rfl

theorem DateTime.compare_eq_iff {t u : DateTime} : compare t u = .eq ↔ t = u := by
  obtain ⟨⟨year, month, day, _, _, _⟩, ⟨second, nano, _, _⟩⟩ := t
  obtain ⟨⟨year', month', day', _, _, _⟩, ⟨second', nano', _, _⟩⟩ := u
  simp [compare_eq_then, Date.compare_eq_then, and_assoc]

theorem OffsetDateTime.compare_eq_iff {t u : OffsetDateTime} :
    compare t u = .eq ↔ t.sameInstant u = true := by
  simp [compare_eq_then, sameInstant]

end Calendar

namespace Scalar

/-- Null is below the kinds, which come in the order of their ranks. -/
def tier (v : Scalar) : Nat := (v.kind?.map (·.rank + 1)).getD 0

/-- Where a value that is no text lies among those of its kind. -/
def coordinates : Scalar → List Int
  | null | string _ => []
  | boolean b => [b.toInt]
  | integer n => [n.toInt]
  | long n => [n.toInt]
  | fixedPoint d => [d.units]
  | float32 x => [x.rank]
  | float64 x => [x.rank]
  | date t => [t.date.year, t.date.month, t.date.day, t.clock.second, t.clock.nano]
  | dateWithOffset t => [t.seconds, t.nano]

def comparePlaces : Scalar → Scalar → Ordering :=
  compareLex (compareOn tier) (compareLex (compareOn text?) (compareOn coordinates))

instance : Std.TransCmp comparePlaces :=
  inferInstanceAs (Std.TransCmp (compareLex _ (compareLex _ _)))

/-- Inside of a tier of numbers the coordinates decide. -/
theorem comparePlaces_of_coordinates (a b : Scalar) (ht : a.tier = b.tier)
    (ha : a.text? = none) (hb : b.text? = none) :
    a.comparePlaces b = compare a.coordinates b.coordinates := by
  simp [comparePlaces, compareLex, compareOn, ht, ha, hb]

theorem comparePlaces_of_single (a b : Scalar) {x y : Int} (ht : a.tier = b.tier)
    (ha : a.text? = none) (hb : b.text? = none) (hx : a.coordinates = [x])
    (hy : b.coordinates = [y]) : a.comparePlaces b = compare x y := by
  rw [comparePlaces_of_coordinates a b ht ha hb, hx, hy, List.compare_cons_cons]
  simp

theorem comparePlaces_string (s t : String) :
    (string s).comparePlaces (string t) = compare s t := by
  have hs : compare (some s) (some t) = compare s t := rfl
  simp [comparePlaces, compareLex, compareOn, tier, kind?, text?, coordinates, hs]

theorem compare_coordinates_date (t u : DateTime) :
    compare (date t).coordinates (date u).coordinates = compare t u := by
  simp only [coordinates, List.compare_cons_cons, List.compare_nil_nil, compare_natCast,
    DateTime.compare_eq_then, Date.compare_eq_then, Ordering.then_assoc, Ordering.then_eq]

theorem compare_coordinates_dateWithOffset (t u : OffsetDateTime) :
    compare (dateWithOffset t).coordinates (dateWithOffset u).coordinates = compare t u := by
  simp only [coordinates, List.compare_cons_cons, List.compare_nil_nil, compare_natCast,
    OffsetDateTime.compare_eq_then, Ordering.then_eq]

/-- Values of two tiers are told apart by the tiers alone. -/
theorem totalCompare_eq_comparePlaces (a b : Scalar) :
    a.totalCompare b = a.comparePlaces b := by
  cases a <;> cases b
  case string.string s t =>
    rw [comparePlaces_string]
    rfl
  case boolean.boolean a b =>
    rw [comparePlaces_of_single (boolean a) (boolean b) rfl rfl rfl rfl rfl, compare_toInt]
    rfl
  case integer.integer a b =>
    rw [comparePlaces_of_single (integer a) (integer b) rfl rfl rfl rfl rfl, compare_toInt32]
    rfl
  case long.long a b =>
    rw [comparePlaces_of_single (long a) (long b) rfl rfl rfl rfl rfl, compare_toInt64]
    rfl
  case fixedPoint.fixedPoint a b =>
    rw [comparePlaces_of_single (fixedPoint a) (fixedPoint b) rfl rfl rfl rfl rfl]
    rfl
  case float32.float32 x y =>
    rw [comparePlaces_of_single (float32 x) (float32 y) rfl rfl rfl rfl rfl]
    rfl
  case float64.float64 x y =>
    rw [comparePlaces_of_single (float64 x) (float64 y) rfl rfl rfl rfl rfl]
    rfl
  case date.date t u =>
    rw [comparePlaces_of_coordinates (date t) (date u) rfl rfl rfl, compare_coordinates_date]
    rfl
  case dateWithOffset.dateWithOffset t u =>
    rw [comparePlaces_of_coordinates (dateWithOffset t) (dateWithOffset u) rfl rfl rfl,
      compare_coordinates_dateWithOffset]
    rfl
  -- null against null, and two different tiers
  all_goals rfl

instance : Std.TransCmp totalCompare := by
  have h : totalCompare = comparePlaces := by
    funext a b
    exact totalCompare_eq_comparePlaces a b
  rw [h]
  infer_instance

/-! Values between others -/

theorem tier_le_of_isLE {a b : Scalar} (h : (a.totalCompare b).isLE) : a.tier ≤ b.tier := by
  rw [totalCompare_eq_comparePlaces] at h
  have ht : (compare a.tier b.tier).isLE := Ordering.isLE_left_of_isLE_then h
  exact Nat.isLE_compare.mp ht

theorem kind?_eq_of_tier {a b : Scalar} (h : a.tier = b.tier) : a.kind? = b.kind? := by
  unfold tier at h
  cases ha : a.kind? with
  | none => cases hb : b.kind? <;> simp [ha, hb] at h ⊢
  | some k =>
    cases hb : b.kind? with
    | none => simp [ha, hb] at h
    | some l =>
      simp only [ha, hb, Option.map_some, Option.getD_some, Nat.add_right_cancel_iff] at h
      have hk := k.all_getElem?_rank
      rw [h, l.all_getElem?_rank] at hk
      exact hk.symm

/-- What lies between two values of one kind is of that kind. -/
theorem kind?_of_between {a b c : Scalar} (hab : (a.totalCompare b).isLE)
    (hbc : (b.totalCompare c).isLE) (h : a.kind? = c.kind?) : b.kind? = c.kind? := by
  have hac : a.tier = c.tier := by simp [tier, h]
  have h₁ := tier_le_of_isLE hab
  have h₂ := tier_le_of_isLE hbc
  exact kind?_eq_of_tier (by omega)

/-! The order of sorting and that of predicates -/

/-- A value of a floating point kind. -/
def isFloat : Scalar → Bool
  | float32 _ | float64 _ => true
  | _ => false

/-- Sorting agrees with predicates on what is less and what is greater. -/
theorem totalCompare_of_compare? {a b : Scalar} {o : Ordering} (h : a.compare? b = some o)
    (ho : o ≠ .eq) : a.totalCompare b = o := by
  cases a <;> cases b
  case float32.float32 x y | float64.float64 x y => exact Binary.compareRanks_of_compareNumbers h ho
  case null.null => cases h
  -- values of one kind sort in their order, and no others have one
  all_goals first
    | exact Option.some.inj h
    | cases h

/-- The order of values finds two values equal exactly if they are the same. -/
theorem compare?_eq_iff {a b : Scalar} :
    a.compare? b = some .eq ↔ a.same b = true ∧ a.isNull = false := by
  cases a <;> cases b
  case string.string | boolean.boolean | integer.integer | long.long =>
    simp [compare?, same, isNull]
  case fixedPoint.fixedPoint a b =>
    simp [compare?, same, isNull, Fixed.compare_eq_iff]
  case float32.float32 x y | float64.float64 x y =>
    simp [compare?, same, isNull, Binary.compareNumbers_eq_iff]
  case date.date t u =>
    simp [compare?, same, isNull, DateTime.compare_eq_iff]
  case dateWithOffset.dateWithOffset t u =>
    simp [compare?, same, isNull, OffsetDateTime.compare_eq_iff]
  -- null, and values of two kinds
  all_goals simp [compare?, same, isNull]

theorem totalCompare_eq_iff_compare? {a b : Scalar} (hf : a.isFloat = false)
    (hn : a.isNull = false) : a.totalCompare b = .eq ↔ a.compare? b = some .eq := by
  cases a <;> cases b
  case float32.float32 | float64.float64 => cases hf
  case null.null => cases hn
  -- values of one kind sort in their order, and the tiers tell all others apart
  all_goals first
    | exact Option.some_inj.symm
    | exact ⟨nofun, nofun⟩

/-- Values that are no floating point numbers sort as equals if they are the same. -/
theorem totalCompare_eq_iff_same {a b : Scalar} (ha : a.isFloat = false) :
    a.totalCompare b = .eq ↔ a.same b = true := by
  cases hn : a.isNull with
  | true =>
    cases a <;> cases hn
    cases b <;> simp [totalCompare, same]
  | false =>
    rw [totalCompare_eq_iff_compare? ha hn, compare?_eq_iff]
    simp [hn]

end Scalar

end Sift
