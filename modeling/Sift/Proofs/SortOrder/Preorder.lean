import Sift.Proofs.SortOrder

/-!
# Sorting compares by a total preorder

The order of sorting refines that of predicates. It says the same wherever predicates see a
difference, and tells apart only what they cannot: null, values of different kinds, the two zeros
and patterns that are no numbers. Comparing entities by any keys inherits its laws.
-/

namespace Sift

open Sift.Number

/-- The comparison may be read from either side, and what holds between neighbours holds between
the ends. -/
structure IsTotalPreorder {α : Type} (cmp : α → α → Ordering) : Prop where
  refl : ∀ a, cmp a a = .eq
  reverse : ∀ a b, cmp b a = (cmp a b).swap
  trans : ∀ a b c o, cmp a b = o → cmp b c = o → cmp a c = o
  trans_le : ∀ a b c, cmp a b ≠ .gt → cmp b c ≠ .gt → cmp a c ≠ .gt

theorem isTotalPreorder_of_transCmp {α : Type} (cmp : α → α → Ordering) [Std.TransCmp cmp] :
    IsTotalPreorder cmp where
  refl := fun a => Std.ReflCmp.compare_self
  reverse := fun a b => Std.OrientedCmp.eq_swap
  trans := by
    intro a b c o hab hbc
    cases o with
    | lt => exact Std.TransCmp.lt_trans hab hbc
    | eq => exact Std.TransCmp.eq_trans hab hbc
    | gt => exact Std.TransCmp.gt_trans hab hbc
  trans_le := by
    intro a b c hab hbc
    rw [ne_eq, ← Ordering.isLE_iff_ne_gt] at hab hbc ⊢
    exact Std.TransCmp.isLE_trans hab hbc

open Scalar

/-- What the order of sorting promises of scalars of all kinds, and of entities by any keys. -/
structure SortingLaws (ε : Type) : Prop where
  scalars : IsTotalPreorder totalCompare
  eq_iff_same : ∀ a b : Scalar, a.isFloat = false → (a.totalCompare b = .eq ↔ a.same b = true)
  float32_eq_iff : ∀ x y : Binary32, (float32 x).totalCompare (float32 y) = .eq ↔ x.bits = y.bits
  float64_eq_iff : ∀ x y : Binary64, (float64 x).totalCompare (float64 y) = .eq ↔ x.bits = y.bits
  refines : ∀ a b : Scalar, ∀ o, a.compare? b = some o → o ≠ .eq → a.totalCompare b = o
  entities : ∀ o : SortOrder ε, IsTotalPreorder o.compare

/-- The order of sorting is a total preorder that refines the order of predicates. -/
theorem sortingLaws (ε : Type) : SortingLaws ε where
  scalars := isTotalPreorder_of_transCmp totalCompare
  eq_iff_same := fun _ _ ha => totalCompare_eq_iff_same ha
  float32_eq_iff := fun _ _ => Binary.compareRanks_eq_iff
  float64_eq_iff := fun _ _ => Binary.compareRanks_eq_iff
  refines := fun _ _ _ h ho => totalCompare_of_compare? h ho
  entities := fun o => isTotalPreorder_of_transCmp o.compare

/-- The zeros are the same number, and sorting tells them apart. -/
example :
    let zero : Scalar := .float64 (.ofMagnitude .double false 0)
    let minusZero : Scalar := .float64 (.ofMagnitude .double true 0)
    minusZero.compare? zero = some .eq ∧ minusZero.totalCompare zero = .lt := by
  decide

end Sift
