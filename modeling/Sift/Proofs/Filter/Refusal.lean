import Sift.Proofs.Filter
import Sift.Proofs.Fragment.Refusal

/-!
# Why a registry has no filter

A registry without fields has none. Of all other faults a required field that no criterion asks
about comes first, the earliest registered before the others, and then the first criterion that is
refused on its own account. Nothing else stands in the way, and all of it is the request's doing.
-/

namespace Sift

variable {ε : Type}

namespace Registry

variable (r : Registry ε)

/-- The field is required, and no criterion asks about it but with an empty value that does not
count. -/
def Unfiltered (m : Mapping ε) : Prop :=
  m.required = true ∧ ∀ c ∈ r.filters, c.targets m.key = true → r.switchesOff c = true

/-- The criterion is refused, whatever stands around it. -/
inductive Refuses (c : FilterCriterion) : Error → Prop
  | unknown (hl : r.lookup c.field = none) (hp : r.config.unknownField = .refuse) :
    Refuses c (.unknownField c.field)
  | rejected {m : Mapping ε} {e : Error} (hl : r.lookup c.field = some m)
    (hs : r.switchesOff c = false) (he : m.fragment r.config c.operator c.value = .error e) :
    Refuses c (.inCriterion m.key c.operator e)

/-- The first fault of a registry, in the order in which faults are reported. -/
inductive FirstFault : Error → Prop
  | noFields (h : r.mappings = []) : FirstFault .notInitialized
  | missing {before after : List (Mapping ε)} {m : Mapping ε}
    (h : r.mappings = before ++ m :: after) (hb : ∀ n ∈ before, ¬ r.Unfiltered n)
    (hm : r.Unfiltered m) : FirstFault (.requiredFilterMissing m.key)
  | criterion {before after : List FilterCriterion} {c : FilterCriterion} {e : Error}
    (hne : r.mappings ≠ []) (hf : ∀ m ∈ r.mappings, ¬ r.Unfiltered m)
    (h : r.filters = before ++ c :: after) (hb : ∀ d ∈ before, ∀ e, ¬ r.Refuses d e)
    (hc : r.Refuses c e) : FirstFault e

variable {r} {e : Error}

theorem verdict_error?_eq_some_iff {c : FilterCriterion} :
    (r.verdict c).error? = some e ↔ r.Refuses c e := by
  constructor
  · intro h
    unfold verdict at h
    split at h
    · rename_i hl
      split at h
      · cases h
      · rename_i hp
        cases h
        exact .unknown hl hp
    · rename_i m hl
      split at h
      · cases h
      · rename_i hs
        split at h
        · cases h
        · rename_i he
          cases h
          exact .rejected hl (by simpa using hs) he
  · rintro (⟨hl, hp⟩ | ⟨hl, hs, he⟩)
    · simp [verdict, hl, hp, Verdict.error?]
    · simp [verdict, hl, hs, he, Verdict.error?]

theorem verdict_error?_eq_none_iff {c : FilterCriterion} :
    (r.verdict c).error? = none ↔ ∀ e, ¬ r.Refuses c e := by
  rw [Option.eq_none_iff_forall_ne_some]
  exact forall_congr' fun e => not_congr verdict_error?_eq_some_iff

/-- The criterion that refuses the filter is the first that is refused at all. -/
theorem firstError?_eq_some_iff {cs : List FilterCriterion} :
    r.firstError? cs = some e ↔ ∃ before c after, cs = before ++ c :: after ∧
      r.Refuses c e ∧ ∀ d ∈ before, ∀ e, ¬ r.Refuses d e := by
  simp only [firstError?, List.findSome?_eq_some_iff, verdict_error?_eq_some_iff,
    verdict_error?_eq_none_iff]

/-! Required fields -/

/-- The test by which a missing field is found. -/
theorem unfiltered_iff {m : Mapping ε} :
    (m.required && !r.filters.any fun c => c.targets m.key && !r.switchesOff c) = true ↔
      r.Unfiltered m := by
  simp [Unfiltered]

theorem missingField?_eq_some_iff {m : Mapping ε} :
    r.missingField? = some m ↔ r.Unfiltered m ∧
      ∃ before after, r.mappings = before ++ m :: after ∧ ∀ n ∈ before, ¬ r.Unfiltered n := by
  simp only [missingField?, List.find?_eq_some_iff_append, unfiltered_iff, Bool.not_eq_true',
    ← Bool.not_eq_true]

theorem missingField?_eq_none_iff :
    r.missingField? = none ↔ ∀ m ∈ r.mappings, ¬ r.Unfiltered m := by
  simp only [missingField?, List.find?_eq_none, unfiltered_iff]

theorem isInitialized_iff : r.isInitialized = true ↔ r.mappings ≠ [] := by
  simp [isInitialized]

theorem ne_nil_of_missingField {m : Mapping ε} (h : r.missingField? = some m) :
    r.mappings ≠ [] := by
  obtain ⟨-, before, after, hs, -⟩ := missingField?_eq_some_iff.mp h
  simp [hs]

/-! The filter as a whole -/

theorem compileFilter_of_no_fields (h : r.mappings = []) :
    r.compileFilter.value = .error .notInitialized := by
  rw [compileFilter, value_reported]
  simp [isInitialized, h]

theorem compileFilter_of_missing {m : Mapping ε} (h : r.missingField? = some m) :
    r.compileFilter.value = .error (.requiredFilterMissing m.key) := by
  have hi := isInitialized_iff.mpr (ne_nil_of_missingField h)
  rw [compileFilter, value_reported]
  simp [hi, h]

theorem compileFilter_of_none_missing (hne : r.mappings ≠ []) (h : r.missingField? = none) :
    r.compileFilter.value = .error e ↔ r.firstError? r.filters = some e := by
  rw [compileFilter, value_reported, h, isInitialized_iff.mpr hne]
  cases hc : r.filters with
  | nil => simp [firstError?]
  | cons c cs =>
    simp only [Bool.not_true, Bool.false_eq_true, if_false, List.isEmpty_cons,
      value_compileCriteria]
    cases r.firstError? (c :: cs) <;> simp

/-- A registry has no filter exactly because of its first fault. -/
theorem compileFilter_eq_error_iff : r.compileFilter.value = .error e ↔ r.FirstFault e := by
  constructor
  · intro h
    by_cases hne : r.mappings = []
    · rw [compileFilter_of_no_fields hne] at h
      cases h
      exact .noFields hne
    · cases hm : r.missingField? with
      | some m =>
        rw [compileFilter_of_missing hm] at h
        cases h
        obtain ⟨hu, before, after, hs, hb⟩ := missingField?_eq_some_iff.mp hm
        exact .missing hs hb hu
      | none =>
        obtain ⟨before, c, after, hs, hc, hb⟩ :=
          firstError?_eq_some_iff.mp ((compileFilter_of_none_missing hne hm).mp h)
        exact .criterion hne (missingField?_eq_none_iff.mp hm) hs hb hc
  · intro h
    cases h with
    | noFields h => exact compileFilter_of_no_fields h
    | missing h hb hm =>
      exact compileFilter_of_missing (missingField?_eq_some_iff.mpr ⟨hm, _, _, h, hb⟩)
    | criterion hne hf h hb hc =>
      rw [compileFilter_of_none_missing hne (missingField?_eq_none_iff.mpr hf)]
      exact firstError?_eq_some_iff.mpr ⟨_, _, _, h, hc, hb⟩

/-! What faults have in common -/

theorem Refuses.isClientError {c : FilterCriterion} (h : r.Refuses c e) :
    e.isClientError = true := by
  cases h with
  | unknown => rfl
  | rejected hl hs he => exact (Mapping.isClientError_of_fragment he).1

theorem FirstFault.isClientError (h : r.FirstFault e) (hne : e ≠ .notInitialized) :
    e.isClientError = true := by
  cases h with
  | noFields => exact absurd rfl hne
  | missing => rfl
  | criterion _ _ _ _ hc => exact hc.isClientError

/-- A fault is wrapped with its criterion once, and only if it lies in the criterion's operator or
operand. -/
theorem FirstFault.source?_of_inCriterion {key : String} {op : Operator} {source : Error}
    (h : r.FirstFault (.inCriterion key op source)) : source.source? = none := by
  cases h with
  | criterion _ _ _ _ hc =>
    cases hc with
    | rejected hl hs he => exact (Mapping.isClientError_of_fragment he).2

theorem compileFilter_notInitialized_iff :
    r.compileFilter.value = .error .notInitialized ↔ r.mappings = [] := by
  constructor
  · intro h
    cases compileFilter_eq_error_iff.mp h with
    | noFields h => exact h
    | criterion _ _ _ _ hc => cases hc
  · exact compileFilter_of_no_fields

theorem exists_filter_iff :
    (∃ f, r.compileFilter.value = .ok f) ↔ r.mappings ≠ [] ∧
      (∀ m ∈ r.mappings, ¬ r.Unfiltered m) ∧ ∀ c ∈ r.filters, ∀ e, ¬ r.Refuses c e := by
  simp only [compileFilter_eq_ok_iff, isInitialized_iff, missingField?_eq_none_iff,
    verdict_error?_eq_none_iff, exists_and_left, exists_eq', and_true]

/-- Compiling the filter reports the first fault, or else there is a filter. Only a registry without
fields is at fault itself. -/
theorem compileFilter_reports_first_fault (r : Registry ε) :
    (∀ e, r.compileFilter.value = .error e ↔ r.FirstFault e) ∧
      (r.compileFilter.value = .error .notInitialized ↔ r.mappings = []) ∧
      ((∃ f, r.compileFilter.value = .ok f) ↔ r.mappings ≠ [] ∧
        (∀ m ∈ r.mappings, ¬ r.Unfiltered m) ∧ ∀ c ∈ r.filters, ∀ e, ¬ r.Refuses c e) ∧
      (∀ key op source, r.compileFilter.value = .error (.inCriterion key op source) →
        source.source? = none) ∧
      ∀ e, r.compileFilter.value = .error e → e ≠ .notInitialized → e.isClientError = true := by
  refine ⟨fun e => compileFilter_eq_error_iff, compileFilter_notInitialized_iff,
    exists_filter_iff, ?_, ?_⟩
  · intro key op source h
    exact (compileFilter_eq_error_iff.mp h).source?_of_inCriterion
  · intro e h hne
    exact (compileFilter_eq_error_iff.mp h).isClientError hne

end Registry

end Sift
