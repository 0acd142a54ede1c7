import Sift.Proofs.SortOrder.Passes

/-!
# Descending mirrors ascending

Where every direction is turned round every comparison is read backwards. The sorted source is then
that of the reversed source, read from its end: strict orders are inverted and null goes from one
end to the other, but entities that are equal on all keys stay in the order of the source.
-/

namespace Sift

variable {ε : Type}

def SortCriterion.flipped (c : SortCriterion) : SortCriterion :=
  { c with direction := c.direction.flip }

/-- The same registry with every sort direction turned round. -/
def Registry.flipped (r : Registry ε) : Registry ε := r.withSorts (r.sorts.map (·.flipped))

namespace SortKey

def flipped (k : SortKey ε) : SortKey ε := { k with direction := k.direction.flip }

variable (k : SortKey ε)

theorem compareBy_flipped (a b : ε) : k.flipped.compareBy a b = (k.compareBy a b).swap := by
  have hx : k.flipped.extract = k.extract := rfl
  unfold compareBy
  rw [hx]
  cases hd : k.direction with
  | ascending => simp [compareValues, flipped, SortDirection.flip, hd]
  | descending => simp [compareValues, flipped, SortDirection.flip, hd]

/-! Null -/

def NullsFirst (items : List ε) : Prop :=
  items.Pairwise fun a b => k.field.read b = .null → k.field.read a = .null

def NullsLast (items : List ε) : Prop :=
  items.Pairwise fun a b => k.field.read a = .null → k.field.read b = .null

/-- Null stands at the end where the direction puts the least. -/
def PlacesNulls (items : List ε) : Prop :=
  match k.direction with
  | .ascending => k.NullsFirst items
  | .descending => k.NullsLast items

end SortKey

theorem Scalar.eq_null_of_isLE_null {v : Scalar} (h : (v.totalCompare .null).isLE) : v = .null := by
  cases v <;> simp_all [totalCompare]

namespace SortKey

variable {k : SortKey ε} {a b : ε} {items : List ε}

theorem extract_eq_null_iff : k.extract a = .null ↔ k.field.read a = .null := by
  unfold extract
  cases k.field.read a <;> simp

theorem read_eq_null_of_isLE (h : ((k.extract a).totalCompare (k.extract b)).isLE)
    (hb : k.field.read b = .null) : k.field.read a = .null := by
  rw [extract_eq_null_iff.mpr hb] at h
  exact extract_eq_null_iff.mp (Scalar.eq_null_of_isLE_null h)

theorem placesNulls_of_pairwise (h : items.Pairwise fun a b => (k.compareBy a b).isLE) :
    k.PlacesNulls items := by
  unfold PlacesNulls
  unfold compareBy compareValues at h
  cases hd : k.direction with
  | ascending =>
    rw [hd] at h
    exact h.imp fun hab hb => read_eq_null_of_isLE hab hb
  | descending =>
    rw [hd] at h
    apply h.imp
    intro a b hab ha
    have hba : (k.extract b).totalCompare (k.extract a) =
        ((k.extract a).totalCompare (k.extract b)).swap := Std.OrientedCmp.eq_swap
    rw [← hba] at hab
    exact read_eq_null_of_isLE hab ha

end SortKey

namespace SortOrder

variable (o : SortOrder ε)

def flipped : SortOrder ε := ⟨o.keys.map (·.flipped)⟩

theorem compare_flipped (a b : ε) : o.flipped.compare a b = (o.compare a b).swap := by
  obtain ⟨ks⟩ := o
  induction ks with
  | nil => rfl
  | cons k ks ih =>
    have hk := compareEntities_cons a b k.flipped (ks.map (·.flipped))
    have hks : compareEntities a b (ks.map (·.flipped)) = (compareEntities a b ks).swap := ih
    rw [hks, SortKey.compareBy_flipped, ← Ordering.swap_then, ← compareEntities_cons] at hk
    exact hk

theorem compare_flipped_eq_eq (a b : ε) :
    (o.flipped.compare a b == .eq) = (o.compare a b == .eq) := by
  rw [compare_flipped]
  cases o.compare a b <;> rfl

theorem isStableSort_flipped (source : List ε) :
    o.flipped.IsStableSort source (o.sort source.reverse).reverse where
  perm := by
    have h := (o.sort_perm source.reverse).trans source.reverse_perm
    exact (List.reverse_perm _).trans h
  ordered := by
    rw [List.pairwise_reverse]
    apply (o.sort_pairwise source.reverse).imp
    intro a b hab
    have hba : o.flipped.compare b a = o.compare a b := by
      rw [compare_flipped]
      exact Std.OrientedCmp.eq_swap.symm
    rw [hba]
    exact (o.ne_gt_iff_isLE a b).mpr hab
  stable := by
    intro a
    simp only [compare_flipped_eq_eq]
    rw [List.filter_reverse, filter_sort_of_eq, ← List.filter_reverse, List.reverse_reverse]

theorem sort_flipped (source : List ε) :
    o.flipped.sort source = (o.sort source.reverse).reverse :=
  (o.isStableSort_flipped source).eq_sort.symm

variable {o} {before after : List (SortKey ε)} {k : SortKey ε}

/-- Where the keys before make no difference the key decides. -/
theorem isLE_compareBy (hk : o.keys = before ++ k :: after) {a b : ε}
    (ht : compare ⟨before⟩ a b = .eq) (hab : (o.compare a b).isLE) : (k.compareBy a b).isLE := by
  have ho : o.compare a b = (k.compareBy a b).then (compare ⟨after⟩ a b) := by
    obtain ⟨ks⟩ := o
    subst hk
    rw [compare_append, ht]
    exact compareEntities_cons a b k after
  rw [ho, Ordering.isLE_then_iff_or] at hab
  rcases hab with hlt | ⟨heq, -⟩
  · simp [hlt]
  · simp [heq]

theorem placesNulls_sort (hk : o.keys = before ++ k :: after) (source : List ε) (a : ε) :
    k.PlacesNulls ((o.sort source).filter (compare ⟨before⟩ a · == .eq)) := by
  have hp := (o.sort_pairwise source).filter (compare ⟨before⟩ a · == .eq)
  apply SortKey.placesNulls_of_pairwise
  apply hp.imp_of_mem
  intro b c hb hc hbc
  have ht : compare ⟨before⟩ b c = .eq := compare_eq_of_mem_filter hb hc
  exact isLE_compareBy hk ht hbc

variable (o) in
/-- What turning the directions round does to an order. Null is looked for under each key, among
the entities that agree on the keys before it. -/
structure MirroredByFlipped : Prop where
  sort_eq : ∀ source, o.flipped.sort source = (o.sort source.reverse).reverse
  inverted : ∀ a b, o.flipped.compare a b = (o.compare a b).swap
  nulls_ascending : ∀ before k after, o.keys = before ++ k :: after → k.direction = .ascending →
    ∀ source a, k.NullsFirst ((o.sort source).filter (compare ⟨before⟩ a · == .eq)) ∧
      k.NullsLast ((o.flipped.sort source).filter (compare ⟨before⟩ a · == .eq))
  nulls_descending : ∀ before k after, o.keys = before ++ k :: after → k.direction = .descending →
    ∀ source a, k.NullsLast ((o.sort source).filter (compare ⟨before⟩ a · == .eq)) ∧
      k.NullsFirst ((o.flipped.sort source).filter (compare ⟨before⟩ a · == .eq))
  ties : ∀ source a,
    (o.sort source).filter (o.compare a · == .eq) = source.filter (o.compare a · == .eq) ∧
      (o.flipped.sort source).filter (o.compare a · == .eq) = source.filter (o.compare a · == .eq)

theorem placesNulls_sort_flipped (hk : o.keys = before ++ k :: after) (source : List ε) (a : ε) :
    k.flipped.PlacesNulls ((o.flipped.sort source).filter (compare ⟨before⟩ a · == .eq)) := by
  have hf : o.flipped.keys =
      before.map (·.flipped) ++ k.flipped :: after.map (·.flipped) := by
    simp [flipped, hk]
  have h := placesNulls_sort hf source a
  have htied (b : ε) := compare_flipped_eq_eq ⟨before⟩ a b
  simp only [flipped] at htied
  simpa only [htied] using h

theorem mirroredByFlipped (o : SortOrder ε) : o.MirroredByFlipped where
  sort_eq := o.sort_flipped
  inverted := o.compare_flipped
  nulls_ascending := by
    intro before k after hk hd source a
    have hfirst := placesNulls_sort hk source a
    have hlast := placesNulls_sort_flipped hk source a
    simp only [SortKey.PlacesNulls, SortKey.flipped, hd, SortDirection.flip] at hfirst hlast
    exact ⟨hfirst, hlast⟩
  nulls_descending := by
    intro before k after hk hd source a
    have hlast := placesNulls_sort hk source a
    have hfirst := placesNulls_sort_flipped hk source a
    simp only [SortKey.PlacesNulls, SortKey.flipped, hd, SortDirection.flip] at hfirst hlast
    exact ⟨hlast, hfirst⟩
  ties := by
    intro source a
    have hf := o.flipped.filter_sort_of_eq source a
    simp only [compare_flipped_eq_eq] at hf
    exact ⟨o.filter_sort_of_eq source a, hf⟩

end SortOrder

namespace Registry

variable {r : Registry ε} {o : SortOrder ε}

theorem sortKey?_flipped (r : Registry ε) (c : SortCriterion) :
    r.sortKey? c.flipped = (r.sortKey? c).map (·.flipped) := by
  change (r.lookup c.field).map _ = ((r.lookup c.field).map _).map _
  cases r.lookup c.field <;> rfl

theorem compileOrder_flipped (ho : r.compileOrder.value = .ok o) :
    r.flipped.compileOrder.value = .ok o.flipped := by
  obtain ⟨hne, hall, rfl⟩ := compileOrder_eq_ok_iff.mp ho
  apply compileOrder_eq_ok_iff.mpr
  refine ⟨by simpa [flipped, withSorts] using hne, ?_, ?_⟩
  · intro c hc
    obtain ⟨d, hd, rfl⟩ := List.mem_map.mp hc
    -- whether a criterion is refused does not depend on its direction
    exact hall d hd
  · have hkeys : (r.sorts.map (·.flipped)).filterMap r.sortKey? =
        (r.sorts.filterMap r.sortKey?).map (·.flipped) := by
      rw [List.filterMap_map, List.map_filterMap]
      exact List.filterMap_congr fun c _ => r.sortKey?_flipped c
    exact congrArg SortOrder.mk hkeys

/-- A registry with its directions turned round sorts as the registry sorts the reversed source,
read from its end. -/
theorem flipped_sorts_in_mirror_order (ho : r.compileOrder.value = .ok o) :
    r.flipped.compileOrder.value = .ok o.flipped ∧ o.MirroredByFlipped ∧
      ∀ source, ∃ out, (r.sort source.reverse).value = .ok out ∧
        (r.flipped.sort source).value = .ok out.reverse := by
  have hf := compileOrder_flipped ho
  refine ⟨hf, o.mirroredByFlipped, fun source => ⟨o.sort source.reverse, value_sort ho _, ?_⟩⟩
  rw [value_sort hf, SortOrder.sort_flipped]

/-- Runners by their time, which those who gave up do not have, and by number. -/
def finishes : Registry (Option Int32 × Int32) where
  mappings := [.ofFunction "Time" (·.1) false, .ofFunction "Number" (·.2) false]
  index := [("number", 1), ("time", 0)]
  filters := []
  sorts := [⟨"TIME", .ascending⟩, ⟨"lane", .ascending⟩, ⟨"number", .descending⟩]
  config := {}

theorem finishes_sort_in_mirror_order :
    ∃ o, finishes.compileOrder.value = .ok o ∧ o.describe = ["Time asc", "Number desc"] ∧
      finishes.flipped.compileOrder.value = .ok o.flipped ∧ o.MirroredByFlipped ∧
        ∀ source, ∃ out, (finishes.sort source.reverse).value = .ok out ∧
          (finishes.flipped.sort source).value = .ok out.reverse := by
  have ho : finishes.compileOrder.value = .ok
      ⟨[⟨⟨"Time", _⟩, .ascending, .ordinal⟩, ⟨⟨"Number", _⟩, .descending, .ordinal⟩]⟩ := rfl
  exact ⟨_, ho, rfl, flipped_sorts_in_mirror_order ho⟩

end Registry

end Sift
