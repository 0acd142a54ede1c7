import Sift.Proofs.Filter.Omission
import Sift.Proofs.Query
import Sift.Proofs.SortOrder.Passes

/-!
# What the order of a query depends on

A stable sort arranges any part of a source as it arranges the whole, so it makes no difference
whether a query filters before it sorts or after. Of the sort criteria those count that name a field
and are the first to do so: the others may be left out, even if none is left, and the query has the
same result or the same error.
-/

namespace Sift

variable {ε : Type}

/-! Filtering before sorting and after -/

/-- What is kept of a source comes in the same order as in the whole. -/
theorem SortOrder.sort_filter (o : SortOrder ε) (keep : ε → Bool) (source : List ε) :
    o.sort (source.filter keep) = (o.sort source).filter keep := by
  symm
  apply IsStableSort.eq_sort
  constructor
  case perm => exact (o.sort_perm source).filter keep
  case ordered =>
    have hp := (o.sort_pairwise source).filter keep
    exact hp.imp fun hab => (o.ne_gt_iff_isLE _ _).mpr hab
  case stable =>
    intro a
    rw [List.filter_comm, filter_sort_of_eq, List.filter_comm]

namespace Registry

section

variable {r : Registry ε} {f : Filter ε} {o : SortOrder ε}

/-- A query may as well sort the whole source and filter what comes out. -/
theorem filtering_commutes_with_sorting (hf : r.compileFilter.value = .ok f)
    (ho : r.compileOrder.value = .ok o) (source : List ε) :
    o.sort (f.apply source) = f.apply (o.sort source) ∧
      (r.query source).value = .ok (f.apply (o.sort source)) ∧
        ∃ all, (r.sort source).value = .ok all ∧ (r.query source).value = .ok (f.apply all) := by
  have hs : r.sorts ≠ [] := (compileOrder_eq_ok_iff.mp ho).1
  have hcomm : o.sort (f.apply source) = f.apply (o.sort source) := o.sort_filter f.holds source
  have hq : (r.query source).value = .ok (f.apply (o.sort source)) := by
    have h := (Accepts.sorted hf hs ho).value_query source
    rwa [arranged, hcomm] at h
  exact ⟨hcomm, hq, _, value_sort ho source, hq⟩

end

/-- Teams by penalty, of which some have none, and by points; only those with points are kept. -/
def standings : Registry (Option Int32 × Int32) where
  mappings := [.ofFunction "Penalty" (·.1) false, .ofFunction "Points" (·.2) true]
  index := [("points", 1), ("penalty", 0)]
  filters := [⟨"points", .greaterThan, "0"⟩]
  sorts := [⟨"penalty", .ascending⟩, ⟨"league", .ascending⟩, ⟨" Penalty", .descending⟩,
    ⟨"POINTS", .descending⟩]
  config := {}

theorem standings_built : standings.Built :=
  ⟨{ mappings := standings.mappings, filters := standings.filters, sorts := standings.sorts }, rfl⟩

theorem standings_filter_commutes :
    ∃ f o, standings.compileFilter.value = .ok f ∧ standings.compileOrder.value = .ok o ∧
      ∀ source, o.sort (f.apply source) = f.apply (o.sort source) ∧
        (standings.query source).value = .ok (f.apply (o.sort source)) ∧
          ∃ all, (standings.sort source).value = .ok all ∧
            (standings.query source).value = .ok (f.apply all) := by
  obtain ⟨f, hf⟩ : ∃ f, standings.compileFilter.value = .ok f := ⟨_, rfl⟩
  obtain ⟨o, ho⟩ : ∃ o, standings.compileOrder.value = .ok o := ⟨_, rfl⟩
  exact ⟨f, o, hf, ho, filtering_commutes_with_sorting hf ho⟩

end Registry

/-! Criteria that make no difference -/

/-- Whether a key tells two entities apart does not depend on its direction. -/
theorem SortKey.compareBy_eq_iff {k : SortKey ε} {a b : ε} :
    k.compareBy a b = .eq ↔ (k.extract a).totalCompare (k.extract b) = .eq := by
  unfold compareBy compareValues
  cases k.direction with
  | ascending => exact Iff.rfl
  | descending => exact Ordering.swap_eq_eq

namespace Registry

section Definitions

variable (r : Registry ε)

/-- Behind the criteria before it this one makes no difference: it names no field, and that is
ignored, or the field that it names is named by one of them. -/
def IsSpare (before : List SortCriterion) (c : SortCriterion) : Prop :=
  (r.config.unknownField = .ignore ∧ ¬ r.SortsByField c) ∨
    ∃ m ∈ r.mappings, m.normal = normalKey c.field ∧ ∃ d ∈ before, m.normal = normalKey d.field

/-- The second list is the first without some of its criteria, each of which is spare behind all
that came before it. What came before the whole list is given in `before`. -/
inductive OmitsSorts : List SortCriterion → List SortCriterion → List SortCriterion → Prop
  | nil {before : List SortCriterion} : OmitsSorts before [] []
  | keep {before cs ds : List SortCriterion} (c : SortCriterion)
    (h : OmitsSorts (c :: before) cs ds) : OmitsSorts before (c :: cs) (c :: ds)
  | leaveOut {before cs ds : List SortCriterion} {c : SortCriterion} (hc : r.IsSpare before c)
    (h : OmitsSorts (c :: before) cs ds) : OmitsSorts before (c :: cs) ds

/-- Compares by the key that a criterion asks for; without one all entities are equal. -/
def compareBy (c : SortCriterion) (a b : ε) : Ordering :=
  compareEntities a b (r.sortKey? c).toList

theorem compareEntities_sortKeys_cons (c : SortCriterion) (cs : List SortCriterion) (a b : ε) :
    compareEntities a b ((c :: cs).filterMap r.sortKey?) =
      (r.compareBy c a b).then (compareEntities a b (cs.filterMap r.sortKey?)) := by
  have hkeys : (c :: cs).filterMap r.sortKey? =
      (r.sortKey? c).toList ++ cs.filterMap r.sortKey? := by
    cases hk : r.sortKey? c <;> simp [hk]
  rw [hkeys]
  exact SortOrder.compare_append _ _ a b

end Definitions

variable {r : Registry ε} {before cs ds : List SortCriterion} {c : SortCriterion} {a b : ε}

theorem IsSpare.not_refusesSort (hr : r.Built) (h : r.IsSpare before c) :
    r.refusesSort c = false := by
  rcases h with ⟨hi, -⟩ | ⟨m, hm, hk, -⟩
  · simp [refusesSort, hi]
  · exact SortsByField.not_refusesSort hr ⟨m, hm, hk⟩

theorem OmitsSorts.find?_refusesSort (hr : r.Built) (h : r.OmitsSorts before cs ds) :
    ds.find? r.refusesSort = cs.find? r.refusesSort := by
  induction h with
  | nil => rfl
  | keep c _ ih => rw [List.find?_cons, List.find?_cons, ih]
  | leaveOut hc _ ih => rw [ih, List.find?_cons, hc.not_refusesSort hr]

/-- A spare criterion makes no difference where those before it make none. -/
theorem IsSpare.compareBy_eq (hr : r.Built) (h : r.IsSpare before c)
    (ht : ∀ d ∈ before, r.compareBy d a b = .eq) : r.compareBy c a b = .eq := by
  rcases h with ⟨-, hnone⟩ | ⟨m, hm, hc, d, hd, hmd⟩
  · have hl : r.lookup c.field = none := by
      apply Option.eq_none_iff_forall_ne_some.mpr
      intro m hl
      exact hnone ⟨m, hr.lookup_eq_some_iff.mp hl⟩
    simp [compareBy, sortKey?, hl, compareEntities]
  · -- the criterion before asks for the same key but for the direction
    have hcl : r.lookup c.field = some m := hr.lookup_eq_some_iff.mpr ⟨hm, hc⟩
    have hdl : r.lookup d.field = some m := hr.lookup_eq_some_iff.mpr ⟨hm, hmd⟩
    have heq := ht d hd
    simp only [compareBy, sortKey?, hcl, hdl, Option.map_some, Option.toList_some,
      compareEntities_cons, compareEntities, Ordering.then_eq] at heq ⊢
    have hvalues := SortKey.compareBy_eq_iff.mp heq
    exact SortKey.compareBy_eq_iff.mpr hvalues

/-- The keys that are left compare as all keys did. -/
theorem OmitsSorts.compare_eq (hr : r.Built) (h : r.OmitsSorts before cs ds)
    (ht : ∀ d ∈ before, r.compareBy d a b = .eq) :
    compareEntities a b (ds.filterMap r.sortKey?) =
      compareEntities a b (cs.filterMap r.sortKey?) := by
  induction h with
  | nil => rfl
  | keep c _ ih =>
    rw [compareEntities_sortKeys_cons, compareEntities_sortKeys_cons]
    cases ho : r.compareBy c a b with
    | lt => rfl
    | gt => rfl
    | eq => rw [ih (List.forall_mem_cons.mpr ⟨ho, ht⟩)]
  | leaveOut hc _ ih =>
    have ho := hc.compareBy_eq hr ht
    rw [ih (List.forall_mem_cons.mpr ⟨ho, ht⟩), compareEntities_sortKeys_cons, ho]
    rfl

theorem OmitsSorts.sort_eq (hr : r.Built) (h : r.OmitsSorts [] cs ds) (items : List ε) :
    SortOrder.sort ⟨ds.filterMap r.sortKey?⟩ items =
      SortOrder.sort ⟨cs.filterMap r.sortKey?⟩ items := by
  have hc (a b : ε) : SortOrder.compare ⟨ds.filterMap r.sortKey?⟩ a b =
      SortOrder.compare ⟨cs.filterMap r.sortKey?⟩ a b :=
    h.compare_eq hr nofun
  rw [SortOrder.sort_eq_mergeSort, SortOrder.sort_eq_mergeSort]
  simp only [hc]

/-! The query of what is left -/

/-- Where no criterion names a field a query sorts by no key, whether it has criteria or not. -/
theorem value_query (r : Registry ε) (source : List ε) : (r.query source).value =
    match r.compileFilter.value with
    | .error e => .error e
    | .ok f => match r.sorts.find? r.refusesSort with
      | some c => .error (.unknownField c.field)
      | none => .ok (SortOrder.sort ⟨r.sorts.filterMap r.sortKey?⟩ (f.apply source)) := by
  cases hf : r.compileFilter.value with
  | error e => exact (Rejects.filter hf).value_query source
  | ok f =>
    by_cases hs : r.sorts = []
    · have hq := (Accepts.unsorted hf hs).value_query source
      rw [hq, hs]
      exact congrArg Except.ok (SortOrder.sort_nil _).symm
    · have ho := value_compileOrder hs
      cases hc : r.sorts.find? r.refusesSort with
      | some c =>
        rw [hc] at ho
        exact (Rejects.order hf hs ho).value_query source
      | none =>
        rw [hc] at ho
        exact (Accepts.sorted hf hs ho).value_query source

theorem compileFilter_withSorts (r : Registry ε) (cs : List SortCriterion) :
    (r.withSorts cs).compileFilter.value = r.compileFilter.value := by
  rw [value_compileFilter, value_compileFilter r]
  rfl

/-- Spare sort criteria may be left out, some or all of them: the query gives the same entities in
the same order, or the same error. -/
theorem spare_sorts_may_be_left_out (hr : r.Built) (h : r.OmitsSorts [] r.sorts ds)
    (source : List ε) : ((r.withSorts ds).query source).value = (r.query source).value := by
  have href : ds.find? r.refusesSort = r.sorts.find? r.refusesSort := h.find?_refusesSort hr
  have hsort (items : List ε) : SortOrder.sort ⟨ds.filterMap r.sortKey?⟩ items =
      SortOrder.sort ⟨r.sorts.filterMap r.sortKey?⟩ items := h.sort_eq hr items
  rw [value_query, value_query r, compileFilter_withSorts, sorts_withSorts, refusesSort_withSorts,
    sortKey?_withSorts, href]
  simp only [hsort]

/-- Of the criteria of the standings the second names no field and the third names the first's. -/
theorem standings_omits_spare :
    standings.OmitsSorts [] standings.sorts
      [⟨"penalty", .ascending⟩, ⟨"POINTS", .descending⟩] := by
  have hpenalty : normalKey "Penalty" = normalKey "penalty" := by decide +kernel
  have hpadded : normalKey "Penalty" = normalKey " Penalty" := by decide +kernel
  have hleague : ∀ m ∈ standings.mappings, m.normal ≠ normalKey "league" := by
    decide +kernel
  refine .keep _ (.leaveOut (.inl ⟨rfl, ?_⟩) (.leaveOut (.inr ?_) (.keep _ .nil)))
  · rintro ⟨m, hm, hk⟩
    exact hleague m hm hk
  · refine ⟨_, List.mem_cons_self, hpadded, ⟨"penalty", .ascending⟩, ?_, hpenalty⟩
    exact List.mem_cons_of_mem _ List.mem_cons_self

theorem standings_sort_without_spare :
    standings.Built ∧
      standings.OmitsSorts [] standings.sorts [⟨"penalty", .ascending⟩, ⟨"POINTS", .descending⟩] ∧
      ∀ source,
        ((standings.withSorts [⟨"penalty", .ascending⟩, ⟨"POINTS", .descending⟩]).query
          source).value = (standings.query source).value :=
  ⟨standings_built, standings_omits_spare,
    spare_sorts_may_be_left_out standings_built standings_omits_spare⟩

end Registry

end Sift
