import Sift.SortOrder
import Sift.Proofs.Scalar.Order

/-!
# Sorting is stable, by the comparison of entities

The rows of values that sorting compares are those that `compare` reads off the entities, so the
decorated sort is the merge sort of the entities themselves. The comparison of a key is that of
`totalCompare`, read forwards or backwards, and that of an order is lexicographic in its keys.
-/

namespace Sift

variable {ε : Type}

namespace SortKey

instance (k : SortKey ε) : Std.TransCmp k.compareValues := by
  cases hd : k.direction with
  | ascending =>
    have h : k.compareValues = Scalar.totalCompare := by
      funext a b
      simp [compareValues, hd]
    rw [h]
    infer_instance
  | descending =>
    have h : k.compareValues = fun a b => Scalar.totalCompare b a := by
      funext a b
      simp only [compareValues, hd]
      exact Std.OrientedCmp.eq_swap.symm
    rw [h]
    infer_instance

/-- Compares two entities by the value of the key. -/
def compareBy (k : SortKey ε) (a b : ε) : Ordering := k.compareValues (k.extract a) (k.extract b)

instance (k : SortKey ε) : Std.TransCmp k.compareBy where
  eq_swap := by
    intro a b
    unfold compareBy
    exact Std.OrientedCmp.eq_swap
  isLE_trans := by
    intro a b c hab hbc
    unfold compareBy at hab hbc ⊢
    exact Std.TransCmp.isLE_trans hab hbc

end SortKey

theorem compareEntities_cons (a b : ε) (k : SortKey ε) (ks : List (SortKey ε)) :
    compareEntities a b (k :: ks) = (k.compareBy a b).then (compareEntities a b ks) := by
  simp only [compareEntities, SortKey.compareBy]
  split <;> simp_all [Ordering.then]

instance compareEntities_trans (ks : List (SortKey ε)) :
    Std.TransCmp fun a b : ε => compareEntities a b ks := by
  induction ks with
  | nil => exact { eq_swap := rfl, isLE_trans := fun _ _ => rfl }
  | cons k ks ih =>
    have h : (fun a b : ε => compareEntities a b (k :: ks)) =
        compareLex k.compareBy fun a b => compareEntities a b ks := by
      funext a b
      exact compareEntities_cons a b k ks
    rw [h]
    infer_instance

theorem compareRows_extract (a b : ε) (ks : List (SortKey ε)) :
    compareRows ks (ks.map (·.extract a)) (ks.map (·.extract b)) = compareEntities a b ks := by
  induction ks with
  | nil => rfl
  | cons k ks ih =>
    rw [compareEntities_cons, ← ih]
    rfl

namespace SortOrder

variable (o : SortOrder ε)

instance : Std.TransCmp o.compare := compareEntities_trans o.keys

theorem compareRows_decorate (a b : ε) :
    compareRows o.keys (o.decorate a).1 (o.decorate b).1 = o.compare a b :=
  compareRows_extract a b o.keys

/-- Sorting the rows sorts the entities. -/
theorem sort_eq_mergeSort (source : List ε) :
    o.sort source = source.mergeSort fun a b => (o.compare a b).isLE := by
  unfold sort
  rw [← List.map_mergeSort (r := fun a b => (o.compare a b).isLE) (f := o.decorate)]
  · simp [decorate, Function.comp_def]
  · intro a _ b _
    rw [compareRows_decorate]

theorem isLE_trans (a b c : ε) (hab : (o.compare a b).isLE) (hbc : (o.compare b c).isLE) :
    (o.compare a c).isLE :=
  Std.TransCmp.isLE_trans hab hbc

theorem isLE_total (a b : ε) : (o.compare a b).isLE || (o.compare b a).isLE := by
  have h : o.compare b a = (o.compare a b).swap := Std.OrientedCmp.eq_swap
  rw [h]
  cases o.compare a b <;> rfl

theorem sort_perm (source : List ε) : (o.sort source).Perm source := by
  rw [sort_eq_mergeSort]
  exact List.mergeSort_perm _ _

theorem sort_pairwise (source : List ε) :
    (o.sort source).Pairwise fun a b => (o.compare a b).isLE := by
  rw [sort_eq_mergeSort]
  exact List.pairwise_mergeSort o.isLE_trans o.isLE_total source

/-- A part of the source that is in order stays as it is. -/
theorem sublist_sort {part source : List ε} (hp : part.Pairwise fun a b => (o.compare a b).isLE)
    (hs : part.Sublist source) : part.Sublist (o.sort source) := by
  rw [sort_eq_mergeSort]
  exact List.sublist_mergeSort o.isLE_trans o.isLE_total hp hs

theorem compare_self (a : ε) : o.compare a a = .eq := Std.ReflCmp.compare_self

theorem ne_gt_iff_isLE (a b : ε) : o.compare a b ≠ .gt ↔ (o.compare a b).isLE := by
  cases o.compare a b <;> simp

theorem compare_eq_of_mem_filter {o : SortOrder ε} {xs ys : List ε} {a b c : ε}
    (hb : b ∈ xs.filter (o.compare a · == .eq)) (hc : c ∈ ys.filter (o.compare a · == .eq)) :
    o.compare b c = .eq := by
  have hab : o.compare a b = .eq := by simpa using (List.mem_filter.mp hb).2
  have hac : o.compare a c = .eq := by simpa using (List.mem_filter.mp hc).2
  rw [← Std.TransCmp.congr_left hab, hac]

/-- Entities that compare equal keep their order. -/
theorem filter_sort_of_eq (source : List ε) (a : ε) :
    (o.sort source).filter (o.compare a · == .eq) = source.filter (o.compare a · == .eq) := by
  have hp : (source.filter (o.compare a · == .eq)).Pairwise fun b c => (o.compare b c).isLE := by
    apply List.pairwise_of_forall_mem_list
    intro b hb c hc
    rw [compare_eq_of_mem_filter hb hc]
    rfl
  -- so they survive the sort as a sublist, and there are no more of them than before
  have hs := (o.sublist_sort hp List.filter_sublist).filter (o.compare a · == .eq)
  rw [List.filter_filter] at hs
  simp only [Bool.and_self] at hs
  exact (hs.eq_of_length ((o.sort_perm source).filter _).length_eq.symm).symm

theorem mem_of_filter_eq {as bs : List ε} {c : ε}
    (h : as.filter (o.compare c · == .eq) = bs.filter (o.compare c · == .eq)) (hc : c ∈ as) :
    c ∈ bs := by
  have hm : c ∈ as.filter (o.compare c · == .eq) := by simp [hc, o.compare_self]
  rw [h] at hm
  exact (List.mem_filter.mp hm).1

/-- Two lists in order that agree on every class of equals are the same list. -/
theorem eq_of_filter_eq {as bs : List ε} (ha : as.Pairwise fun a b => (o.compare a b).isLE)
    (hb : bs.Pairwise fun a b => (o.compare a b).isLE)
    (h : ∀ c, as.filter (o.compare c · == .eq) = bs.filter (o.compare c · == .eq)) : as = bs := by
  induction as generalizing bs with
  | nil =>
    apply (List.eq_nil_iff_forall_not_mem.mpr ?_).symm
    intro b hb
    exact List.not_mem_nil (o.mem_of_filter_eq (h b).symm hb)
  | cons a as ih =>
    cases bs with
    | nil => exact absurd (o.mem_of_filter_eq (h a) List.mem_cons_self) List.not_mem_nil
    | cons b bs =>
      -- each head is in the other list, so neither is above the other
      have hab : (o.compare a b).isLE := by
        rcases List.mem_cons.mp (o.mem_of_filter_eq (h b).symm List.mem_cons_self) with rfl | hm
        · simp [o.compare_self]
        · exact List.rel_of_pairwise_cons ha hm
      have hba : (o.compare b a).isLE := by
        rcases List.mem_cons.mp (o.mem_of_filter_eq (h a) List.mem_cons_self) with rfl | hm
        · simp [o.compare_self]
        · exact List.rel_of_pairwise_cons hb hm
      have heq : o.compare a b = .eq := Std.OrientedCmp.isLE_antisymm hab hba
      have hhead := h a
      simp only [List.filter_cons, o.compare_self, heq, beq_self_eq_true, if_true,
        List.cons.injEq] at hhead
      obtain ⟨rfl, -⟩ := hhead
      congr 1
      refine ih ha.of_cons hb.of_cons fun c => ?_
      have hc := h c
      simp only [List.filter_cons] at hc
      split at hc
      · exact (List.cons.inj hc).2
      · exact hc

/-- `out` holds what the source holds, in order, and equals in the order of the source. -/
structure IsStableSort (source out : List ε) : Prop where
  perm : out.Perm source
  ordered : out.Pairwise fun a b => o.compare a b ≠ .gt
  stable : ∀ a, out.filter (o.compare a · == .eq) = source.filter (o.compare a · == .eq)

theorem isStableSort_sort (source : List ε) : o.IsStableSort source (o.sort source) where
  perm := o.sort_perm source
  ordered := (o.sort_pairwise source).imp fun h => (o.ne_gt_iff_isLE _ _).mpr h
  stable := o.filter_sort_of_eq source

theorem IsStableSort.eq_sort {source out : List ε} (h : o.IsStableSort source out) :
    out = o.sort source := by
  apply o.eq_of_filter_eq (h.ordered.imp fun h => (o.ne_gt_iff_isLE _ _).mp h)
    (o.sort_pairwise source)
  intro a
  rw [h.stable, filter_sort_of_eq]

/-- Sorting yields the stable sort by `compare`, though it compares rows of values. -/
theorem sort_is_the_stable_sort (source out : List ε) :
    (out = o.sort source ↔ o.IsStableSort source out) ∧
      ∀ a b, compareRows o.keys (o.decorate a).1 (o.decorate b).1 = o.compare a b := by
  refine ⟨⟨?_, fun h => h.eq_sort⟩, o.compareRows_decorate⟩
  rintro rfl
  exact o.isStableSort_sort source

end SortOrder

end Sift
