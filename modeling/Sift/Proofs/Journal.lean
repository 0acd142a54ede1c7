import Sift.Proofs.Filter.Omission
import Sift.Proofs.SortOrder.Keys

/-!
# What compiling leaves in the journal

The criteria that are passed over leave a record each, in their order, as far as compiling gets. The
outcome leaves one record behind them: what was compiled, or the refusal. A registry that is refused
for its fields leaves nothing but the refusal, and one without criteria is compiled silently.
-/

namespace Sift

variable {ε : Type}

/-- Refusals are warnings, everything else is for debugging. -/
def Event.level : Event → Level
  | compileRejected => .warn
  | _ => .debug

namespace Journal

/-- The warning that an outcome leaves, if it is a refusal. -/
def ofOutcome {α : Type} (stage : String) : Except Error α → Journal
  | .ok _ => []
  | .error e => [.rejected stage e]

@[simp] theorem ofOutcome_ok {α : Type} (stage : String) (a : α) :
    ofOutcome stage (.ok a) = [] := rfl

@[simp] theorem ofOutcome_error {α : Type} (stage : String) (e : Error) :
    ofOutcome stage (.error e : Except Error α) = [.rejected stage e] := rfl

def refusals (j : Journal) : Journal := j.filter (·.event = .compileRejected)

/-- Every record is of the level of its event. -/
def WellLevelled (j : Journal) : Prop := ∀ n ∈ j, n.level = n.event.level

/-- Records for debugging, none of which is a refusal. -/
def IsQuiet (j : Journal) : Prop := ∀ n ∈ j, n.level = .debug ∧ n.event ≠ .compileRejected

variable {j k : Journal}

theorem IsQuiet.refusals_append (hj : j.IsQuiet) (k : Journal) :
    refusals (j ++ k) = refusals k := by
  have hnone : j.filter (·.event = .compileRejected) = [] := by
    apply List.filter_eq_nil_iff.mpr
    intro n hn
    simpa using (hj n hn).2
  rw [refusals, List.filter_append, hnone]
  rfl

theorem IsQuiet.wellLevelled (hj : j.IsQuiet) : j.WellLevelled := by
  intro n hn
  obtain ⟨hl, he⟩ := hj n hn
  cases hev : n.event with
  | compileRejected => exact absurd hev he
  | _ => exact hl

theorem WellLevelled.append (hj : j.WellLevelled) (hk : k.WellLevelled) :
    WellLevelled (j ++ k) := by
  intro n hn
  rcases List.mem_append.mp hn with hn | hn
  · exact hj n hn
  · exact hk n hn

theorem wellLevelled_rejected (stage : String) (e : Error) :
    WellLevelled [.rejected stage e] := by
  intro n hn
  rw [List.mem_singleton.mp hn]
  rfl

end Journal

theorem Journaled.journal_reported {α : Type} (stage : String)
    (x : Journaled (Except Error α)) :
    (Journaled.reported stage x).journal = x.journal ++ .ofOutcome stage x.value := by
  unfold Journaled.reported
  rw [Journaled.journal_bind]
  cases x.value <;> rfl

namespace Registry

section Definitions

variable (r : Registry ε)

/-- What a filter criterion leaves that is passed over. -/
def skipRecord (c : FilterCriterion) : Record :=
  if (r.lookup c.field).isNone then .unknownFieldIgnored c.field
  else .criterionSkipped c.field c.operator

/-- What filter criteria leave, in order. -/
def skipRecords (cs : List FilterCriterion) : Journal :=
  (cs.filter r.passesOver).map r.skipRecord

/-- What sort criteria leave, in order. -/
def sortRecords (cs : List SortCriterion) : Journal :=
  (cs.filter fun c => (r.lookup c.field).isNone).map fun c => .sortFieldIgnored c.field

/-- The outcome of compiling the filter, and the records that it leaves. -/
inductive FilterTrace : Except Error (Filter ε) → Journal → Prop
  | noFields (h : r.mappings = []) :
    FilterTrace (.error .notInitialized) [.rejected "filter" .notInitialized]
  | missing {m : Mapping ε} (h : r.missingField? = some m) :
    FilterTrace (.error (.requiredFilterMissing m.key))
      [.rejected "filter" (.requiredFilterMissing m.key)]
  | refused {before after : List FilterCriterion} {c : FilterCriterion} {e : Error}
    (h : r.filters = before ++ c :: after) (hb : ∀ d ∈ before, ∀ e, ¬ r.Refuses d e)
    (hc : r.Refuses c e) :
    FilterTrace (.error e) (r.skipRecords before ++ [.rejected "filter" e])
  | unfiltered {f : Filter ε} (h : r.filters = []) : FilterTrace (.ok f) []
  | compiled {f : Filter ε} (h : r.filters ≠ []) (hs : f.skipped = r.filters.filter r.passesOver) :
    FilterTrace (.ok f) (f.skipped.map r.skipRecord ++
      [.filterCompiled f.fragments f.skipped.length f.predicate.written])

/-- The outcome of compiling the order, and the records that it leaves. -/
inductive OrderTrace : Except Error (SortOrder ε) → Journal → Prop
  | noSorts (h : r.sorts = []) : OrderTrace (.error .noSorts) [.rejected "sort" .noSorts]
  | refused {before after : List SortCriterion} {c : SortCriterion}
    (h : r.sorts = before ++ c :: after) (hb : ∀ d ∈ before, r.refusesSort d = false)
    (hc : r.refusesSort c = true) :
    OrderTrace (.error (.unknownField c.field))
      (r.sortRecords before ++ [.rejected "sort" (.unknownField c.field)])
  | compiled {o : SortOrder ε} (h : r.sorts ≠ []) (ha : ∀ c ∈ r.sorts, r.refusesSort c = false) :
    OrderTrace (.ok o) (r.sortRecords r.sorts ++ [.sortCompiled o.keys.length o.written])

end Definitions

variable {r : Registry ε} {c : FilterCriterion} {cs before after : List FilterCriterion}
  {f : Filter ε} {e : Error}

/-! Criteria that are passed over -/

theorem skipped_eq_skipRecord {note : Record} (h : r.verdict c = .skipped note) :
    r.passesOver c = true ∧ note = r.skipRecord c := by
  unfold verdict at h
  unfold passesOver skipRecord
  cases hl : r.lookup c.field with
  | none =>
    rw [hl] at h
    cases hp : r.config.unknownField with
    | ignore =>
      rw [hp] at h
      cases h
      simp
    | refuse =>
      rw [hp] at h
      cases h
  | some m =>
    rw [hl] at h
    dsimp only at h
    split at h
    · rename_i hs
      cases h
      simp [hs]
    · split at h <;> cases h

theorem not_passesOver_of_fragment {p : Predicate ε} (h : r.verdict c = .fragment p) :
    r.passesOver c = false := by
  cases hp : r.passesOver c with
  | false => rfl
  | true =>
    obtain ⟨note, hn⟩ := verdict_of_passesOver hp
    rw [h] at hn
    cases hn

theorem skipRecords_cons_skipped {note : Record} (h : r.verdict c = .skipped note)
    (cs : List FilterCriterion) : r.skipRecords (c :: cs) = note :: r.skipRecords cs := by
  obtain ⟨hp, rfl⟩ := skipped_eq_skipRecord h
  rw [skipRecords, List.filter_cons_of_pos hp]
  rfl

theorem skipRecords_cons_fragment {p : Predicate ε} (h : r.verdict c = .fragment p)
    (cs : List FilterCriterion) : r.skipRecords (c :: cs) = r.skipRecords cs := by
  rw [skipRecords, List.filter_cons_of_neg (by simp [not_passesOver_of_fragment h])]
  rfl

theorem isQuiet_skipRecords (cs : List FilterCriterion) : (r.skipRecords cs).IsQuiet := by
  intro n hn
  obtain ⟨c, -, rfl⟩ := List.mem_map.mp hn
  unfold skipRecord
  split <;> exact ⟨rfl, nofun⟩

/-! The criteria of a filter -/

/-- Criteria that are not refused leave their records, whatever is compiled after them. -/
theorem journal_compileCriteria_append (hb : ∀ c ∈ before, (r.verdict c).error? = none)
    (f : Filter ε) (cs : List FilterCriterion) :
    (r.compileCriteria f (before ++ cs)).journal =
      r.skipRecords before ++ (r.compileCriteria (r.addAll f before) cs).journal := by
  induction before generalizing f with
  | nil => simp [skipRecords, addAll, fragmentsOf]
  | cons c before ih =>
    have hc := hb c List.mem_cons_self
    have ih := ih fun d hd => hb d (List.mem_cons_of_mem c hd)
    rw [List.cons_append, compileCriteria_cons]
    rcases r.verdict_cases c with ⟨hi, note, hv⟩ | ⟨hi, p, hv, -⟩ | ⟨e, hv⟩
    · rw [skipRecords_cons_skipped hv, addAll_cons_skipped hi (by rw [hv]; rfl), hv]
      exact congrArg (note :: ·) (ih _)
    · rw [skipRecords_cons_fragment hv, addAll_cons_fragment hi (by rw [hv]; rfl), hv]
      exact ih _
    · rw [hv] at hc
      cases hc

theorem journal_compileCriteria_of_accepted (h : ∀ c ∈ cs, (r.verdict c).error? = none)
    (f : Filter ε) :
    (r.compileCriteria f cs).journal = r.skipRecords cs ++ [.filterCompiled
      (r.addAll f cs).fragments (r.addAll f cs).skipped.length (r.addAll f cs).predicate.written] := by
  have ha := journal_compileCriteria_append h f []
  rwa [List.append_nil] at ha

theorem journal_compileCriteria_of_refused (hb : ∀ d ∈ before, ∀ e, ¬ r.Refuses d e)
    (hc : r.Refuses c e) (f : Filter ε) :
    (r.compileCriteria f (before ++ c :: after)).journal = r.skipRecords before := by
  have hv := verdict_error?_eq_some_iff.mpr hc
  rw [journal_compileCriteria_append fun d hd => verdict_error?_eq_none_iff.mpr (hb d hd),
    compileCriteria_cons]
  cases hr : r.verdict c with
  | refused e' => exact List.append_nil _
  | _ => simp [hr, Verdict.error?] at hv

/-! The filter -/

theorem compileFilter_of_fields (hne : r.mappings ≠ []) (hm : r.missingField? = none)
    (hf : r.filters ≠ []) :
    r.compileFilter = .reported "filter" (r.compileCriteria .identity r.filters) := by
  have hf : r.filters.isEmpty = false := by simpa using hf
  rw [compileFilter, isInitialized_iff.mpr hne, hm, hf]
  rfl

/-- Behind the records of its criteria a filter leaves its outcome. -/
theorem filterTrace (r : Registry ε) :
    r.FilterTrace r.compileFilter.value r.compileFilter.journal := by
  cases hv : r.compileFilter.value with
  | error e =>
    cases compileFilter_eq_error_iff.mp hv with
    | noFields h =>
      have hj : r.compileFilter.journal = [.rejected "filter" .notInitialized] := by
        simp [compileFilter, isInitialized, h, Journaled.journal_reported]
      rw [hj]
      exact .noFields h
    | missing h hb hu =>
      have hm := missingField?_eq_some_iff.mpr ⟨hu, _, _, h, hb⟩
      have hi := isInitialized_iff.mpr (ne_nil_of_missingField hm)
      rw [compileFilter, hi, hm, Journaled.journal_reported]
      exact .missing hm
    | criterion hne hu h hb hc =>
      have hf : r.filters ≠ [] := by simp [h]
      rw [compileFilter_of_fields hne (missingField?_eq_none_iff.mpr hu) hf] at hv ⊢
      rw [value_reported] at hv
      rw [Journaled.journal_reported, hv, h, journal_compileCriteria_of_refused hb hc]
      exact .refused h hb hc
  | ok f =>
    obtain ⟨hi, hm, ha, rfl⟩ := compileFilter_eq_ok_iff.mp hv
    by_cases hf : r.filters = []
    · have hj : r.compileFilter.journal = [] := by
        simp [compileFilter, hi, hm, hf, Journaled.journal_reported]
      rw [hj]
      exact .unfiltered hf
    · have hs : (r.addAll .identity r.filters).skipped = r.filters.filter r.passesOver := by
        rw [filter_passesOver (firstError?_eq_none_iff.mpr ha)]
        simp [addAll, Filter.identity]
      rw [compileFilter_of_fields (isInitialized_iff.mp hi) hm hf] at hv ⊢
      rw [value_reported] at hv
      rw [Journaled.journal_reported, hv, journal_compileCriteria_of_accepted ha, skipRecords, ← hs,
        Journal.ofOutcome_ok, List.append_nil]
      exact .compiled hf hs

/-! The order -/

theorem isQuiet_sortRecords (cs : List SortCriterion) : (r.sortRecords cs).IsQuiet := by
  intro n hn
  obtain ⟨c, -, rfl⟩ := List.mem_map.mp hn
  exact ⟨rfl, nofun⟩

theorem compileSorts_cons_journal (keys : List (SortKey ε)) (c : SortCriterion)
    (cs : List SortCriterion) :
    (r.compileSorts keys (c :: cs)).journal =
      if r.refusesSort c then []
      else r.sortRecords [c] ++ (r.compileSorts (keys ++ (r.sortKey? c).toList) cs).journal := by
  rw [compileSorts, refusesSort, sortKey?, sortRecords]
  cases hl : r.lookup c.field with
  | some m => simp [hl]
  | none => cases r.config.unknownField <;> simp [hl, Journaled.record]

/-- Sort criteria that are not refused leave their records, whatever is compiled after them. -/
theorem journal_compileSorts_append {before : List SortCriterion}
    (hb : ∀ c ∈ before, r.refusesSort c = false) (keys : List (SortKey ε))
    (cs : List SortCriterion) :
    (r.compileSorts keys (before ++ cs)).journal = r.sortRecords before ++
      (r.compileSorts (keys ++ before.filterMap r.sortKey?) cs).journal := by
  induction before generalizing keys with
  | nil => simp [sortRecords]
  | cons c before ih =>
    have ih := ih fun d hd => hb d (List.mem_cons_of_mem c hd)
    have hc : r.sortRecords (c :: before) = r.sortRecords [c] ++ r.sortRecords before := by
      unfold sortRecords
      rw [← List.map_append, ← List.filter_append]
      rfl
    have hk : (c :: before).filterMap r.sortKey? =
        (r.sortKey? c).toList ++ before.filterMap r.sortKey? := by
      cases h : r.sortKey? c <;> simp [h]
    rw [List.cons_append, compileSorts_cons_journal, hb c List.mem_cons_self,
      if_neg Bool.false_ne_true, ih, hc, hk, List.append_assoc, List.append_assoc]

/-- Behind the records of its criteria an order leaves its outcome. -/
theorem orderTrace (r : Registry ε) :
    r.OrderTrace r.compileOrder.value r.compileOrder.journal := by
  by_cases hs : r.sorts = []
  · have ho : r.compileOrder = ⟨.error .noSorts, [.rejected "sort" .noSorts]⟩ := by
      simp only [compileOrder, hs]
      rfl
    rw [ho]
    exact .noSorts hs
  have hne : ¬ r.sorts.isEmpty = true := by simpa using hs
  rw [compileOrder, value_reported, Journaled.journal_reported, if_neg hne, value_compileSorts]
  cases hf : r.sorts.find? r.refusesSort with
  | none =>
    have ha : ∀ c ∈ r.sorts, r.refusesSort c = false := by simpa using hf
    have hj := journal_compileSorts_append ha [] []
    rw [List.append_nil] at hj
    rw [hj, Journal.ofOutcome_ok, List.append_nil]
    exact .compiled hs ha
  | some c =>
    obtain ⟨hc, before, after, h, hb⟩ := List.find?_eq_some_iff_append.mp hf
    have hb : ∀ d ∈ before, r.refusesSort d = false := by simpa using hb
    rw [h, journal_compileSorts_append hb, compileSorts_cons_journal, hc, if_pos rfl,
      List.append_nil]
    exact .refused h hb hc

/-! Refusals -/

theorem FilterTrace.refusals_eq {x : Except Error (Filter ε)} {j : Journal}
    (h : r.FilterTrace x j) : j.refusals = .ofOutcome "filter" x := by
  cases h with
  | noFields => rfl
  | missing => rfl
  | refused => exact (isQuiet_skipRecords _).refusals_append _
  | unfiltered => rfl
  | compiled _ hs =>
    rw [hs]
    exact (isQuiet_skipRecords r.filters).refusals_append _

theorem FilterTrace.wellLevelled {x : Except Error (Filter ε)} {j : Journal}
    (h : r.FilterTrace x j) : j.WellLevelled := by
  cases h with
  | noFields => exact Journal.wellLevelled_rejected _ _
  | missing => exact Journal.wellLevelled_rejected _ _
  | refused =>
    exact (isQuiet_skipRecords _).wellLevelled.append (Journal.wellLevelled_rejected _ _)
  | unfiltered => exact nofun
  | compiled _ hs =>
    rw [hs]
    refine (isQuiet_skipRecords r.filters).wellLevelled.append ?_
    simp [Journal.WellLevelled, Record.filterCompiled, Event.level]

/-- No criterion is looked at before a registry is refused for its fields. -/
theorem FilterTrace.journal_of_fields {j : Journal} (h : r.FilterTrace (.error e) j)
    (he : e = .notInitialized ∨ ∃ key, e = .requiredFilterMissing key) :
    j = [.rejected "filter" e] := by
  cases h with
  | noFields => rfl
  | missing => rfl
  | refused _ _ hc =>
    rcases he with rfl | ⟨key, rfl⟩
    · cases hc
    · cases hc

theorem OrderTrace.refusals_eq {x : Except Error (SortOrder ε)} {j : Journal}
    (h : r.OrderTrace x j) : j.refusals = .ofOutcome "sort" x := by
  cases h with
  | noSorts => rfl
  | refused => exact (isQuiet_sortRecords _).refusals_append _
  | compiled => exact (isQuiet_sortRecords _).refusals_append _

theorem OrderTrace.wellLevelled {x : Except Error (SortOrder ε)} {j : Journal}
    (h : r.OrderTrace x j) : j.WellLevelled := by
  cases h with
  | noSorts => exact Journal.wellLevelled_rejected _ _
  | refused =>
    exact (isQuiet_sortRecords _).wellLevelled.append (Journal.wellLevelled_rejected _ _)
  | compiled =>
    refine (isQuiet_sortRecords _).wellLevelled.append ?_
    simp [Journal.WellLevelled, Record.sortCompiled, Event.level]

variable (r) in
/-- Compiling the filter and compiling the order each leave the trace of their outcome, with one
warning if they fail and none otherwise. -/
structure LeavesTraces : Prop where
  filter : r.FilterTrace r.compileFilter.value r.compileFilter.journal
  filter_refusals : r.compileFilter.journal.refusals = .ofOutcome "filter" r.compileFilter.value
  filter_fields : ∀ e, r.compileFilter.value = .error e →
    (e = .notInitialized ∨ ∃ key, e = .requiredFilterMissing key) →
      r.compileFilter.journal = [.rejected "filter" e]
  order : r.OrderTrace r.compileOrder.value r.compileOrder.journal
  order_refusals : r.compileOrder.journal.refusals = .ofOutcome "sort" r.compileOrder.value
  levels : r.compileFilter.journal.WellLevelled ∧ r.compileOrder.journal.WellLevelled

theorem compiling_leavesTraces (r : Registry ε) : r.LeavesTraces where
  filter := r.filterTrace
  filter_refusals := r.filterTrace.refusals_eq
  filter_fields := by
    intro e hv he
    have ht := r.filterTrace
    rw [hv] at ht
    exact ht.journal_of_fields he
  order := r.orderTrace
  order_refusals := r.orderTrace.refusals_eq
  levels := ⟨r.filterTrace.wellLevelled, r.orderTrace.wellLevelled⟩

example : levels.compileFilter.journal.map (·.event) =
    [.unknownFieldIgnored, .criterionSkipped, .filterCompiled] := rfl

end Registry

end Sift
