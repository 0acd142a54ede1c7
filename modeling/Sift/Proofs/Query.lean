import Sift.Proofs.Filter.Refusal
import Sift.Proofs.SortOrder.Keys
import Sift.Query

/-!
# The explanation of a registry tells what its query does

Both compile the filter first, and the order only if there is anything to sort by. So an explanation
accepts exactly where the query has a result, shows the parts that the query was made from, and
rejects with the error that the query reports.
-/

namespace Sift

variable {ε : Type}

namespace Registry

variable (r : Registry ε)

/-- The filter of the registry and, if it sorts, its order. -/
inductive Accepts : Filter ε → Option (SortOrder ε) → Prop
  | unsorted {f : Filter ε} (hf : r.compileFilter.value = .ok f) (hs : r.sorts = []) :
    Accepts f none
  | sorted {f : Filter ε} {o : SortOrder ε} (hf : r.compileFilter.value = .ok f)
    (hs : r.sorts ≠ []) (ho : r.compileOrder.value = .ok o) : Accepts f (some o)

/-- The error of the filter or else, if the registry sorts, the error of the order. -/
inductive Rejects : Error → Prop
  | filter {e : Error} (he : r.compileFilter.value = .error e) : Rejects e
  | order {f : Filter ε} {e : Error} (hf : r.compileFilter.value = .ok f) (hs : r.sorts ≠ [])
    (he : r.compileOrder.value = .error e) : Rejects e

theorem accepts_or_rejects : (∃ f o, r.Accepts f o) ∨ ∃ e, r.Rejects e := by
  cases hf : r.compileFilter.value with
  | error e => exact .inr ⟨e, .filter hf⟩
  | ok f =>
    by_cases hs : r.sorts = []
    · exact .inl ⟨f, none, .unsorted hf hs⟩
    · cases ho : r.compileOrder.value with
      | error e => exact .inr ⟨e, .order hf hs ho⟩
      | ok o => exact .inl ⟨f, some o, .sorted hf hs ho⟩

variable {r} {f : Filter ε} {o : Option (SortOrder ε)} {e : Error}

/-- What is kept of a source, in order if there is one. -/
def arranged (f : Filter ε) (source : List ε) : Option (SortOrder ε) → List ε
  | some o => o.sort (f.apply source)
  | none => f.apply source

theorem Accepts.value_query (h : r.Accepts f o) (source : List ε) :
    (r.query source).value = .ok (arranged f source o) := by
  cases h with
  | unsorted hf hs => simp [query, hf, hs, arranged]
  | sorted hf hs ho => simp [query, hf, hs, ho, arranged, Except.map]

theorem Accepts.value_explain (h : r.Accepts f o) : r.explain.value = .ofCompiled f o := by
  cases h with
  | unsorted hf hs => simp [explain, hf, hs]
  | sorted hf hs ho => simp [explain, hf, hs, ho]

theorem Rejects.value_query (h : r.Rejects e) (source : List ε) :
    (r.query source).value = .error e := by
  cases h with
  | filter he => simp [query, he]
  | order hf hs he => simp [query, hf, hs, he, Except.map]

theorem Rejects.value_explain (h : r.Rejects e) : r.explain.value = .ofError e := by
  cases h with
  | filter he => simp [explain, he]
  | order hf hs he => simp [explain, hf, hs, he]

theorem query_eq_error_iff {source : List ε} :
    (r.query source).value = .error e ↔ r.Rejects e := by
  constructor
  · intro he
    rcases r.accepts_or_rejects with ⟨f, o, h⟩ | ⟨e', h⟩
    · rw [h.value_query] at he
      cases he
    · rw [h.value_query] at he
      cases he
      exact h
  · exact fun h => h.value_query source

theorem query_eq_ok_iff {source out : List ε} :
    (r.query source).value = .ok out ↔ ∃ f o, r.Accepts f o ∧ out = arranged f source o := by
  constructor
  · intro ho
    rcases r.accepts_or_rejects with ⟨f, o, h⟩ | ⟨e, h⟩
    · rw [h.value_query] at ho
      exact ⟨f, o, h, (Except.ok.inj ho).symm⟩
    · rw [h.value_query] at ho
      cases ho
  · rintro ⟨f, o, h, rfl⟩
    exact h.value_query source

/-- The records left on the way are the same, too. -/
theorem journal_query (source : List ε) : (r.query source).journal = r.explain.journal := by
  unfold query explain
  simp only [Journaled.journal_bind]
  cases r.compileFilter.value with
  | error e => rfl
  | ok f =>
    cases r.sorts.isEmpty with
    | true => rfl
    | false => cases ho : r.compileOrder.value <;> simp [ho]

/-! An order without keys -/

theorem FirstFault.code_ne_noSorts (h : r.FirstFault e) : e.code ≠ Error.noSorts.code := by
  cases h with
  | noFields => simp [Error.code]
  | missing => simp [Error.code]
  | criterion _ _ _ _ hc =>
    cases hc with
    | unknown => simp [Error.code]
    | rejected _ _ he =>
      rcases Mapping.fragment_error_cases he with ⟨-, rfl⟩ | ⟨reason, rfl⟩ | ⟨t, rfl⟩
      · simp [Error.code, Mapping.unsupported]
      · simp [Error.code]
      · simp [Error.code]

theorem Rejects.code_ne_noSorts (h : r.Rejects e) : e.code ≠ Error.noSorts.code := by
  cases h with
  | filter he => exact (compileFilter_eq_error_iff.mp he).code_ne_noSorts
  | order _ hs he =>
    obtain ⟨c, -, rfl⟩ := eq_unknownField_of_compileOrder hs he
    simp [Error.code]

variable (r) in
/-- The explanation is that of the query of a source, with the parts as the filter and the order
have them on their own. -/
structure ExplainsQuery (source : List ε) : Prop where
  accepted_iff : r.explain.value.accepted = true ↔ ∃ out, (r.query source).value = .ok out
  rejected : ∀ e, (r.query source).value = .error e →
    r.explain.value.code = some e.code ∧ r.explain.value.reason = some e.message
  error_iff : ∀ e, (r.query source).value = .error e ↔ r.Rejects e
  filtered : ∀ out, (r.query source).value = .ok out → ∃ f, r.compileFilter.value = .ok f ∧
    r.explain.value.predicate = some f.predicate.written ∧
    r.explain.value.fragments = f.fragments ∧
    r.explain.value.skipped = f.skipped.map (·.written) ∧
    (r.sorts = [] → r.explain.value.sort = [] ∧ out = f.apply source) ∧
    (r.sorts ≠ [] → ∃ o, r.compileOrder.value = .ok o ∧ r.explain.value.sort = o.describe ∧
      out = o.sort (f.apply source) ∧ (r.sort (f.apply source)).value = .ok out)
  sorts_not_asked : (r.query source).value ≠ .error .noSorts ∧
    r.explain.value.code ≠ some Error.noSorts.code
  journal_eq : (r.query source).journal = r.explain.journal

theorem explain_explainsQuery (r : Registry ε) (source : List ε) : r.ExplainsQuery source := by
  constructor
  case accepted_iff =>
    rcases r.accepts_or_rejects with ⟨f, o, h⟩ | ⟨e, h⟩
    · simp [h.value_explain, h.value_query, Explanation.ofCompiled]
    · simp [h.value_explain, h.value_query, Explanation.ofError]
  case rejected =>
    intro e he
    rw [(query_eq_error_iff.mp he).value_explain]
    exact ⟨rfl, rfl⟩
  case error_iff => exact fun e => query_eq_error_iff
  case filtered =>
    intro out hout
    obtain ⟨f, o, h, rfl⟩ := query_eq_ok_iff.mp hout
    rw [h.value_explain]
    cases h with
    | unsorted hf hs => exact ⟨f, hf, rfl, rfl, rfl, fun _ => ⟨rfl, rfl⟩, fun hne => absurd hs hne⟩
    | sorted hf hs ho =>
      refine ⟨f, hf, rfl, rfl, rfl, fun h => absurd h hs, fun _ => ⟨_, ho, rfl, rfl, ?_⟩⟩
      simp [sort, ho, Except.map, arranged]
  case sorts_not_asked =>
    rcases r.accepts_or_rejects with ⟨f, o, h⟩ | ⟨e, h⟩
    · rw [h.value_query, h.value_explain]
      exact ⟨nofun, nofun⟩
    · rw [h.value_query, h.value_explain]
      refine ⟨?_, fun hc => h.code_ne_noSorts (Option.some.inj hc)⟩
      rintro hc
      cases hc
      exact h.code_ne_noSorts rfl
  case journal_eq => exact journal_query source

end Registry

end Sift
