import Mathlib.Data.List.Basic
import Sift.Proofs.Registry
import Sift.Proofs.SortOrder
import Sift.Proofs.SortOrder.Keys

/-!
# Later keys only break ties

Sorting by several keys is sorting by the later ones and then by the first alone: a pass by one key
leaves entities that are equal on it as the passes before have arranged them. A registry whose sort
criteria all name fields therefore sorts as it would without its first criterion, and then by that
criterion alone.
-/

namespace Sift

variable {ε : Type}

namespace SortOrder

variable {k : SortKey ε} {ks : List (SortKey ε)} {xs : List ε}

theorem compare_cons (k : SortKey ε) (ks : List (SortKey ε)) (a b : ε) :
    compare ⟨k :: ks⟩ a b = (compare ⟨[k]⟩ a b).then (compare ⟨ks⟩ a b) := by
  have hk : compare ⟨[k]⟩ a b = k.compareBy a b := by
    rw [compare, compareEntities_cons]
    exact Ordering.then_eq
  rw [hk]
  exact compareEntities_cons a b k ks

theorem compare_append (ks ls : List (SortKey ε)) (a b : ε) :
    compare ⟨ks ++ ls⟩ a b = (compare ⟨ks⟩ a b).then (compare ⟨ls⟩ a b) := by
  induction ks with
  | nil => rfl
  | cons k ks ih => rw [List.cons_append, compare_cons, ih, compare_cons k ks, Ordering.then_assoc]

/-- The equals under all keys are those under the later keys among those under the first. -/
theorem filter_compare_cons (xs : List ε) (a : ε) :
    xs.filter (compare ⟨k :: ks⟩ a · == .eq) =
      (xs.filter (compare ⟨[k]⟩ a · == .eq)).filter (compare ⟨ks⟩ a · == .eq) := by
  rw [List.filter_filter]
  refine List.filter_congr fun b _ => ?_
  rw [compare_cons, Bool.eq_iff_iff]
  simp [Ordering.then_eq_eq, and_comm]

/-- In order of the first key, and in order of the later keys wherever the first makes no
difference. -/
theorem pairwise_compare_cons (hk : xs.Pairwise fun a b => (compare ⟨[k]⟩ a b).isLE)
    (hks : ∀ a, (xs.filter (compare ⟨[k]⟩ a · == .eq)).Pairwise fun b c =>
      (compare ⟨ks⟩ b c).isLE) :
    xs.Pairwise fun a b => (compare ⟨k :: ks⟩ a b).isLE := by
  rw [List.pairwise_iff_forall_sublist]
  intro a b hab
  have hle := List.pairwise_iff_forall_sublist.mp hk hab
  rw [compare_cons, Ordering.isLE_then_iff_or]
  cases ho : compare ⟨[k]⟩ a b with
  | lt => exact .inl rfl
  | gt => simp [ho] at hle
  | eq =>
    have hclass : [a, b].Sublist (xs.filter (compare ⟨[k]⟩ a · == .eq)) := by
      have h := hab.filter (compare ⟨[k]⟩ a · == .eq)
      simpa [compare_self, ho] using h
    exact .inr ⟨rfl, List.pairwise_iff_forall_sublist.mp (hks a) hclass⟩

/-- Sorting by the later keys and then by the first sorts by all of them. -/
theorem sort_cons (k : SortKey ε) (ks : List (SortKey ε)) (source : List ε) :
    sort ⟨k :: ks⟩ source = sort ⟨[k]⟩ (sort ⟨ks⟩ source) := by
  symm
  apply IsStableSort.eq_sort
  constructor
  case perm => exact (sort_perm _ _).trans (sort_perm _ _)
  case ordered =>
    have h : (sort ⟨[k]⟩ (sort ⟨ks⟩ source)).Pairwise fun a b =>
        (compare ⟨k :: ks⟩ a b).isLE := by
      refine pairwise_compare_cons (sort_pairwise _ _) fun a => ?_
      -- the pass by the first key has left this class as the later keys have arranged it
      rw [filter_sort_of_eq]
      exact (sort_pairwise _ _).filter _
    exact h.imp fun hab => (ne_gt_iff_isLE _ _ _).mpr hab
  case stable =>
    intro a
    rw [filter_compare_cons, filter_sort_of_eq, List.filter_comm, filter_sort_of_eq,
      List.filter_comm, ← filter_compare_cons]

theorem sort_nil (source : List ε) : sort ⟨[]⟩ source = source := by
  symm
  apply IsStableSort.eq_sort
  refine ⟨.refl _, ?_, fun a => rfl⟩
  exact List.pairwise_of_forall fun a b => nofun

end SortOrder

namespace Registry

section Definitions

variable (r : Registry ε)

/-- The same registry with other sort criteria. -/
def withSorts (cs : List SortCriterion) : Registry ε := { r with sorts := cs }

/-- The criterion names a registered field, without blanks and in small letters. -/
def SortsByField (c : SortCriterion) : Prop := ∃ m ∈ r.mappings, m.normal = normalKey c.field

@[simp] theorem sorts_withSorts (cs : List SortCriterion) : (r.withSorts cs).sorts = cs := rfl

@[simp] theorem refusesSort_withSorts (cs : List SortCriterion) :
    (r.withSorts cs).refusesSort = r.refusesSort := rfl

@[simp] theorem sortKey?_withSorts (cs : List SortCriterion) :
    (r.withSorts cs).sortKey? = r.sortKey? := rfl

end Definitions

variable {r : Registry ε} {c : SortCriterion} {cs : List SortCriterion}

theorem SortsByField.not_refusesSort (hr : r.Built) (hc : r.SortsByField c) :
    r.refusesSort c = false := by
  obtain ⟨m, hm, hk⟩ := hc
  simp [refusesSort, hr.lookup_eq_some_iff.mpr ⟨hm, hk⟩]

/-- Criteria that all name fields sort by the keys that they ask for. -/
theorem value_sort_withSorts (hr : r.Built) (hne : cs ≠ []) (hn : ∀ c ∈ cs, r.SortsByField c)
    (source : List ε) :
    ((r.withSorts cs).sort source).value =
      .ok (SortOrder.sort ⟨cs.filterMap r.sortKey?⟩ source) := by
  have hall : ∀ c ∈ cs, r.refusesSort c = false := by
    intro c hc
    exact (hn c hc).not_refusesSort hr
  have ho : (r.withSorts cs).compileOrder.value = .ok ⟨cs.filterMap r.sortKey?⟩ :=
    compileOrder_eq_ok_iff.mpr ⟨hne, hall, rfl⟩
  exact value_sort ho source

theorem filterMap_sortKey?_cons (hr : r.Built) (hc : r.SortsByField c)
    (cs : List SortCriterion) :
    ∃ k, [c].filterMap r.sortKey? = [k] ∧
      (c :: cs).filterMap r.sortKey? = k :: cs.filterMap r.sortKey? := by
  obtain ⟨m, hm, hk⟩ := hc
  have hl : r.lookup c.field = some m := hr.lookup_eq_some_iff.mpr ⟨hm, hk⟩
  exact ⟨_, by simp [sortKey?, hl]; rfl, by simp [sortKey?, hl]⟩

/-- A registry sorts by all criteria but the first, and then by the first: whatever the later ones
have arranged, they only decide where the first does not. -/
theorem first_criterion_sorts_last (hr : r.Built) (hs : r.sorts = c :: cs) (hne : cs ≠ [])
    (hn : ∀ d ∈ r.sorts, r.SortsByField d) (source : List ε) :
    ∃ out mid, (r.sort source).value = .ok out ∧
      ((r.withSorts cs).sort source).value = .ok mid ∧
      ((r.withSorts [c]).sort mid).value = .ok out := by
  rw [hs] at hn
  obtain ⟨hc, hcs⟩ := List.forall_mem_cons.mp hn
  obtain ⟨k, hk, hks⟩ := filterMap_sortKey?_cons hr hc cs
  have hall : r.withSorts (c :: cs) = r := by rw [← hs]; rfl
  have hout := value_sort_withSorts hr (List.cons_ne_nil c cs) hn source
  rw [hall, hks, SortOrder.sort_cons] at hout
  have hlast := value_sort_withSorts hr (List.cons_ne_nil c []) (by simpa using hc)
    (SortOrder.sort ⟨cs.filterMap r.sortKey?⟩ source)
  rw [hk] at hlast
  exact ⟨_, _, hout, value_sort_withSorts hr hne hcs source, hlast⟩

/-- Players by points, the best first, and by age where points are equal. -/
def players : Registry (Int32 × Int32) where
  mappings := [.ofFunction "Points" (·.1) false, .ofFunction "Age" (·.2) false]
  index := [("age", 1), ("points", 0)]
  filters := []
  sorts := [⟨"points", .descending⟩, ⟨" AGE ", .ascending⟩]
  config := {}

theorem players_built : players.Built :=
  ⟨{ mappings := players.mappings, sorts := players.sorts }, rfl⟩

theorem players_sort_by_points_last :
    players.Built ∧ players.sorts = [⟨"points", .descending⟩, ⟨" AGE ", .ascending⟩] ∧
      (∀ c ∈ players.sorts, players.SortsByField c) ∧
      ∀ source, ∃ out mid, (players.sort source).value = .ok out ∧
        ((players.withSorts [⟨" AGE ", .ascending⟩]).sort source).value = .ok mid ∧
        ((players.withSorts [⟨"points", .descending⟩]).sort mid).value = .ok out := by
  have hpoints : normalKey "Points" = normalKey "points" := by decide +kernel
  have hage : normalKey "Age" = normalKey " AGE " := by decide +kernel
  have hn : ∀ c ∈ players.sorts, players.SortsByField c := by
    intro c hc
    rcases List.mem_pair.mp hc with rfl | rfl
    · exact ⟨_, List.mem_cons_self, hpoints⟩
    · exact ⟨_, List.mem_cons_of_mem _ List.mem_cons_self, hage⟩
  exact ⟨players_built, rfl, hn,
    first_criterion_sorts_last players_built rfl (List.cons_ne_nil _ _) hn⟩

end Registry

end Sift
