import Mathlib.Data.List.Find
import Sift.Proofs.Filter.Refusal

/-!
# Criteria that may as well be left out

A registry passes over a criterion on an unknown field, if it ignores those, and over one that an
empty value switches off. Wherever such criteria stand and however many of them are left out, the
same field is missing, the same fault comes first and the same fragments are gathered: only the list
of what was skipped is shorter.
-/

namespace Sift

variable {ε : Type}

namespace Registry

section Definitions

variable (r : Registry ε)

/-- The field is unknown and the policy is to ignore that, or the field is known and the empty value
of the criterion switches it off. -/
def passesOver (c : FilterCriterion) : Bool :=
  match r.lookup c.field with
  | none => r.config.unknownField = .ignore
  | some _ => r.switchesOff c

/-- The same registry with other filter criteria. -/
def withFilters (cs : List FilterCriterion) : Registry ε := { r with filters := cs }

/-- The registry without the criteria that it passes over. -/
def effective : Registry ε := r.withFilters (r.filters.filter (!r.passesOver ·))

/-- The second list is the first without some of the criteria that are passed over. -/
inductive Omits : List FilterCriterion → List FilterCriterion → Prop
  | nil : Omits [] []
  | keep {cs ds : List FilterCriterion} (c : FilterCriterion) (h : Omits cs ds) :
    Omits (c :: cs) (c :: ds)
  | leaveOut {cs ds : List FilterCriterion} {c : FilterCriterion} (hc : r.passesOver c = true)
    (h : Omits cs ds) : Omits (c :: cs) ds

end Definitions

variable {r : Registry ε} {c : FilterCriterion} {cs ds : List FilterCriterion}

theorem omits_filter (cs : List FilterCriterion) :
    r.Omits cs (cs.filter (!r.passesOver ·)) := by
  induction cs with
  | nil => exact .nil
  | cons c cs ih =>
    cases hc : r.passesOver c with
    | true =>
      rw [List.filter_cons_of_neg (by simp [hc])]
      exact .leaveOut hc ih
    | false =>
      rw [List.filter_cons_of_pos (by simp [hc])]
      exact .keep c ih

/-! What is passed over -/

theorem verdict_of_passesOver (h : r.passesOver c = true) :
    ∃ note, r.verdict c = .skipped note := by
  unfold passesOver at h
  unfold verdict
  cases hl : r.lookup c.field with
  | none =>
    simp only [hl, decide_eq_true_eq] at h
    simp [h]
  | some m =>
    simp only [hl] at h
    simp [h]

/-- Of the criteria that are not refused the inert ones are passed over. -/
theorem passesOver_eq_isInert (h : (r.verdict c).error? = none) :
    r.passesOver c = r.isInert c := by
  unfold passesOver isInert
  cases hl : r.lookup c.field with
  | some m => simp
  | none =>
    cases hp : r.config.unknownField with
    | ignore => simp
    | refuse => simp [verdict, hl, hp, Verdict.error?] at h

theorem filter_passesOver (h : r.firstError? cs = none) :
    cs.filter r.passesOver = cs.filter r.isInert :=
  List.filter_congr fun c hc => passesOver_eq_isInert (firstError?_eq_none_iff.mp h c hc)

/-- A criterion that is passed over asks about no field: it names none, or has no value that
counts. -/
theorem asks_of_passesOver (hr : r.Built) (hc : r.passesOver c = true) {m : Mapping ε}
    (hm : m ∈ r.mappings) : (c.targets m.key && !r.switchesOff c) = false := by
  cases ht : c.targets m.key with
  | false => rfl
  | true =>
    have hl := (hr.lookup_eq_some_iff_targets hm).mpr ht
    simp only [passesOver, hl] at hc
    simp [hc]

/-! Leaving out -/

theorem Omits.any_asks (h : r.Omits cs ds) (hr : r.Built) {m : Mapping ε}
    (hm : m ∈ r.mappings) :
    (ds.any fun c => c.targets m.key && !r.switchesOff c) =
      cs.any fun c => c.targets m.key && !r.switchesOff c := by
  induction h with
  | nil => rfl
  | keep c _ ih => simp only [List.any_cons, ih]
  | leaveOut hc _ ih => rw [List.any_cons, asks_of_passesOver hr hc hm, Bool.false_or, ih]

theorem Omits.missingField?_eq (h : r.Omits r.filters ds) (hr : r.Built) :
    (r.withFilters ds).missingField? = r.missingField? := by
  refine List.find?_congr fun m hm => ?_
  have ha := h.any_asks hr hm
  exact congrArg (fun b => m.required && !b) ha

theorem Omits.firstError?_eq (h : r.Omits cs ds) : r.firstError? ds = r.firstError? cs := by
  induction h with
  | nil => rfl
  | keep c _ ih =>
    unfold firstError? at ih ⊢
    rw [List.findSome?_cons, List.findSome?_cons, ih]
  | leaveOut hc _ ih =>
    obtain ⟨note, hv⟩ := verdict_of_passesOver hc
    rw [ih]
    unfold firstError?
    rw [List.findSome?_cons_of_isNone (by simp [hv, Verdict.error?])]

theorem Omits.fragmentsOf_eq (h : r.Omits cs ds) : r.fragmentsOf ds = r.fragmentsOf cs := by
  induction h with
  | nil => rfl
  | @keep cs ds c _ ih =>
    cases hv : (r.verdict c).fragment? with
    | none => rw [fragmentsOf_cons_none hv, fragmentsOf_cons_none hv, ih]
    | some p => rw [fragmentsOf_cons_some hv, fragmentsOf_cons_some hv, ih]
  | leaveOut hc _ ih =>
    obtain ⟨note, hv⟩ := verdict_of_passesOver hc
    rw [fragmentsOf_cons_none (by rw [hv]; rfl), ih]

/-! The filter of what is left -/

theorem value_compileFilter (r : Registry ε) : r.compileFilter.value =
    if r.mappings = [] then .error .notInitialized
    else match r.missingField? with
      | some m => .error (.requiredFilterMissing m.key)
      | none => match r.firstError? r.filters with
        | some e => .error e
        | none => .ok (r.addAll .identity r.filters) := by
  by_cases hne : r.mappings = []
  · rw [compileFilter_of_no_fields hne, if_pos hne]
  rw [if_neg hne]
  cases hm : r.missingField? with
  | some m => exact compileFilter_of_missing hm
  | none =>
    cases hf : r.firstError? r.filters with
    | some e => exact (compileFilter_of_none_missing hne hm).mpr hf
    | none =>
      exact compileFilter_eq_ok_iff.mpr
        ⟨isInitialized_iff.mpr hne, hm, firstError?_eq_none_iff.mp hf, rfl⟩

/-- Whatever is gathered is gathered from fewer criteria too; of those that are passed over only
what was kept is listed. -/
theorem Omits.addAll_eq (h : r.Omits cs ds) (hf : r.firstError? cs = none) :
    r.addAll .identity ds = { r.addAll .identity cs with skipped := ds.filter r.passesOver } := by
  have hs : ds.filter r.passesOver = ds.filter r.isInert :=
    filter_passesOver (h.firstError?_eq.trans hf)
  simp [addAll, h.fragmentsOf_eq, hs, Filter.identity]

theorem Omits.compileFilter_eq (h : r.Omits r.filters ds) (hr : r.Built) :
    (r.withFilters ds).compileFilter.value =
      r.compileFilter.value.map fun f => { f with skipped := ds.filter r.passesOver } := by
  have hm : (r.withFilters ds).mappings = r.mappings := rfl
  have he : (r.withFilters ds).firstError? (r.withFilters ds).filters =
      r.firstError? r.filters := h.firstError?_eq
  rw [value_compileFilter, value_compileFilter r, hm, h.missingField?_eq hr, he]
  split
  · rfl
  · cases r.missingField? with
    | some m => rfl
    | none =>
      cases hf : r.firstError? r.filters with
      | some e => rfl
      | none => exact congrArg Except.ok (h.addAll_eq hf)

/-- Criteria that are passed over may be left out, all of them or some: the filter has the same
predicate and as many fragments, or fails for the same reason, and no field is missing for it. -/
theorem passed_over_may_be_left_out (hr : r.Built) :
    r.effective.compileFilter.value =
        r.compileFilter.value.map (fun f => { f with skipped := [] }) ∧
      ∀ ds, r.Omits r.filters ds →
        (r.withFilters ds).missingField? = r.missingField? ∧
          (r.withFilters ds).compileFilter.value =
            r.compileFilter.value.map fun f => { f with skipped := ds.filter r.passesOver } := by
  constructor
  · have hs : (r.filters.filter (!r.passesOver ·)).filter r.passesOver = [] := by
      simp [List.filter_filter]
    have h := (omits_filter r.filters).compileFilter_eq hr
    rwa [hs] at h
  · intro ds h
    exact ⟨h.missingField?_eq hr, h.compileFilter_eq hr⟩

theorem levels_left_out :
    levels.Built ∧ levels.Omits levels.filters levels.filters.tail ∧
      levels.effective.compileFilter.value =
        levels.compileFilter.value.map (fun f => { f with skipped := [] }) ∧
      (levels.withFilters levels.filters.tail).compileFilter.value =
        levels.compileFilter.value.map fun f =>
          { f with skipped := levels.filters.tail.filter levels.passesOver } := by
  have ho : levels.Omits levels.filters levels.filters.tail :=
    .leaveOut rfl (.keep _ (.keep _ .nil))
  have h := passed_over_may_be_left_out levels_built
  exact ⟨levels_built, ho, h.1, (h.2 _ ho).2⟩

end Registry

end Sift
