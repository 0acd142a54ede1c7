import Sift.Proofs.Filter
import Sift.SortOrder

/-!
# The keys of a registry's order

The order has one key for each sort criterion that names a field. Where unknown fields are not
ignored the first criterion that names none refuses the order; apart from that it is refused only
because there is nothing to sort by.
-/

namespace Sift

variable {ε : Type}

namespace Registry

variable (r : Registry ε)

/-- The key that a sort criterion asks for, if it names a field. -/
def sortKey? (c : SortCriterion) : Option (SortKey ε) :=
  (r.lookup c.field).map fun m => ⟨m.ref, c.direction, r.config.textMatching⟩

/-- The criterion names no field, and that is not ignored. -/
def refusesSort (c : SortCriterion) : Bool :=
  (r.lookup c.field).isNone && r.config.unknownField = .refuse

theorem compileSorts_cons (keys : List (SortKey ε)) (c : SortCriterion)
    (cs : List SortCriterion) :
    (r.compileSorts keys (c :: cs)).value =
      if r.refusesSort c then .error (.unknownField c.field)
      else (r.compileSorts (keys ++ (r.sortKey? c).toList) cs).value := by
  rw [compileSorts, refusesSort, sortKey?]
  cases r.lookup c.field with
  | some m => rfl
  | none => cases r.config.unknownField <;> simp

theorem value_compileSorts (keys : List (SortKey ε)) (cs : List SortCriterion) :
    (r.compileSorts keys cs).value = match cs.find? r.refusesSort with
      | some c => .error (.unknownField c.field)
      | none => .ok ⟨keys ++ cs.filterMap r.sortKey?⟩ := by
  induction cs generalizing keys with
  | nil => simp [compileSorts]
  | cons c cs ih =>
    rw [compileSorts_cons, List.find?_cons]
    cases r.refusesSort c with
    | true => rfl
    | false =>
      rw [if_neg Bool.false_ne_true, ih, List.append_assoc]
      cases hk : r.sortKey? c <;> simp [hk]

variable {r} {o : SortOrder ε} {e : Error}

/-- The order of a registry that sorts is refused by a criterion or not at all. -/
theorem value_compileOrder (hs : r.sorts ≠ []) :
    r.compileOrder.value = match r.sorts.find? r.refusesSort with
      | some c => .error (.unknownField c.field)
      | none => .ok ⟨r.sorts.filterMap r.sortKey?⟩ := by
  have hne : ¬ r.sorts.isEmpty = true := by simpa using hs
  rw [compileOrder, value_reported, if_neg hne, value_compileSorts]
  rfl

theorem compileOrder_eq_ok_iff :
    r.compileOrder.value = .ok o ↔
      r.sorts ≠ [] ∧ (∀ c ∈ r.sorts, r.refusesSort c = false) ∧
        SortOrder.mk (r.sorts.filterMap r.sortKey?) = o := by
  have hfind : r.sorts.find? r.refusesSort = none ↔ ∀ c ∈ r.sorts, r.refusesSort c = false := by
    simp
  by_cases hs : r.sorts = []
  · simp [compileOrder, value_reported, hs]
  rw [value_compileOrder hs, ← hfind]
  cases r.sorts.find? r.refusesSort with
  | none => simp [hs]
  | some c => simp

theorem eq_unknownField_of_compileOrder (hs : r.sorts ≠ [])
    (he : r.compileOrder.value = .error e) : ∃ c ∈ r.sorts, e = .unknownField c.field := by
  rw [value_compileOrder hs] at he
  cases hc : r.sorts.find? r.refusesSort with
  | none => simp [hc] at he
  | some c =>
    rw [hc] at he
    exact ⟨c, List.mem_of_find?_eq_some hc, (Except.error.inj he).symm⟩

theorem value_sort (ho : r.compileOrder.value = .ok o) (source : List ε) :
    (r.sort source).value = .ok (o.sort source) := by
  change r.compileOrder.value.map (·.sort source) = .ok (o.sort source)
  rw [ho]
  rfl

end Registry

end Sift
