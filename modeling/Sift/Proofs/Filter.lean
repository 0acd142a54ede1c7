import Sift.Filter
import Sift.Proofs.Predicate
import Sift.Proofs.Registry

/-!
# What the filter of a registry keeps

Each criterion has a verdict of its own: it is skipped, or adds its fragment, or refuses the whole
filter. Compiling the criteria reports the first refusal, or else gathers the fragments and lists
what was skipped. A required field always has a criterion among those that were not skipped.
-/

namespace Sift

variable {ε : Type}

/-- What becomes of a criterion; a skipped one leaves a record. -/
inductive Verdict (ε : Type)
  | skipped (note : Record)
  | fragment (p : Predicate ε)
  | refused (e : Error)

namespace Verdict

def fragment? : Verdict ε → Option (Predicate ε)
  | fragment p => some p
  | _ => none

def error? : Verdict ε → Option Error
  | refused e => some e
  | _ => none

end Verdict

namespace Registry

variable (r : Registry ε)

def verdict (c : FilterCriterion) : Verdict ε :=
  match r.lookup c.field with
  | none => match r.config.unknownField with
    | .ignore => .skipped (.unknownFieldIgnored c.field)
    | .refuse => .refused (.unknownField c.field)
  | some m =>
    if r.switchesOff c then .skipped (.criterionSkipped c.field c.operator)
    else match m.fragment r.config c.operator c.value with
      | .ok p => .fragment p
      | .error e => .refused (.inCriterion m.key c.operator e)

/-- The criterion names no field, or is known and switched off by its empty value. -/
def isInert (c : FilterCriterion) : Bool := (r.lookup c.field).isNone || r.switchesOff c

/-- The criterion names a field on which its operator and operand compile. -/
def HasFragment (c : FilterCriterion) (p : Predicate ε) : Prop :=
  ∃ m, r.lookup c.field = some m ∧ m.fragment r.config c.operator c.value = .ok p

/-- The fragments of criteria, in order. -/
def fragmentsOf (cs : List FilterCriterion) : List (Predicate ε) :=
  cs.filterMap fun c => (r.verdict c).fragment?

def firstError? (cs : List FilterCriterion) : Option Error :=
  cs.findSome? fun c => (r.verdict c).error?

/-- The filter with all criteria added. -/
def addAll (f : Filter ε) (cs : List FilterCriterion) : Filter ε :=
  ⟨(r.fragmentsOf cs).foldl Predicate.and f.predicate, f.fragments + (r.fragmentsOf cs).length,
   f.skipped ++ cs.filter r.isInert⟩

theorem compileCriteria_cons (f : Filter ε) (c : FilterCriterion) (cs : List FilterCriterion) :
    r.compileCriteria f (c :: cs) = match r.verdict c with
      | .skipped note => do
        .record note
        r.compileCriteria (f.addSkipped c) cs
      | .fragment p => r.compileCriteria (f.addFragment p) cs
      | .refused e => return .error e := by
  rw [compileCriteria, verdict]
  cases r.lookup c.field with
  | none => cases r.config.unknownField <;> rfl
  | some m =>
    dsimp only
    split
    · rfl
    · cases m.fragment r.config c.operator c.value <;> rfl

variable {r}

theorem verdict_cases (c : FilterCriterion) :
    (r.isInert c = true ∧ ∃ note, r.verdict c = .skipped note) ∨
      (r.isInert c = false ∧ ∃ p, r.verdict c = .fragment p ∧ r.HasFragment c p) ∨
        ∃ e, r.verdict c = .refused e := by
  unfold verdict isInert HasFragment
  cases r.lookup c.field with
  | none => cases r.config.unknownField <;> simp
  | some m =>
    cases r.switchesOff c with
    | true => simp
    | false => cases hp : m.fragment r.config c.operator c.value <;> simp [hp]

/-- A criterion that is not refused is inert or adds its fragment. -/
theorem verdict_of_accepted {c : FilterCriterion} (h : (r.verdict c).error? = none) :
    (r.isInert c = true ∧ (r.verdict c).fragment? = none) ∨
      (r.isInert c = false ∧ ∃ p, (r.verdict c).fragment? = some p ∧ r.HasFragment c p) := by
  rcases r.verdict_cases c with ⟨hi, note, hv⟩ | ⟨hi, p, hv, hp⟩ | ⟨e, hv⟩
  · exact .inl ⟨hi, by rw [hv]; rfl⟩
  · exact .inr ⟨hi, p, by rw [hv]; rfl, hp⟩
  · rw [hv] at h
    cases h

theorem fragmentsOf_cons_none {c : FilterCriterion} (hv : (r.verdict c).fragment? = none)
    (cs : List FilterCriterion) : r.fragmentsOf (c :: cs) = r.fragmentsOf cs :=
  List.filterMap_cons_none hv

theorem fragmentsOf_cons_some {c : FilterCriterion} {p : Predicate ε}
    (hv : (r.verdict c).fragment? = some p) (cs : List FilterCriterion) :
    r.fragmentsOf (c :: cs) = p :: r.fragmentsOf cs :=
  List.filterMap_cons_some hv

theorem addAll_cons_skipped {c : FilterCriterion} (hi : r.isInert c = true)
    (hv : (r.verdict c).fragment? = none) (f : Filter ε) (cs : List FilterCriterion) :
    r.addAll f (c :: cs) = r.addAll (f.addSkipped c) cs := by
  simp [addAll, fragmentsOf_cons_none hv, hi, Filter.addSkipped]

theorem addAll_cons_fragment {c : FilterCriterion} {p : Predicate ε} (hi : r.isInert c = false)
    (hv : (r.verdict c).fragment? = some p) (f : Filter ε) (cs : List FilterCriterion) :
    r.addAll f (c :: cs) = r.addAll (f.addFragment p) cs := by
  simp [addAll, fragmentsOf_cons_some hv, hi, Filter.addFragment, Nat.add_assoc, Nat.add_comm 1]

theorem value_compileCriteria (f : Filter ε) (cs : List FilterCriterion) :
    (r.compileCriteria f cs).value = match r.firstError? cs with
      | some e => .error e
      | none => .ok (r.addAll f cs) := by
  induction cs generalizing f with
  | nil => simp [compileCriteria, firstError?, addAll, fragmentsOf]
  | cons c cs ih =>
    rw [compileCriteria_cons, firstError?, List.findSome?_cons]
    rcases r.verdict_cases c with ⟨hi, note, hv⟩ | ⟨hi, p, hv, -⟩ | ⟨e, hv⟩
    · rw [addAll_cons_skipped hi (by rw [hv]; rfl), hv]
      exact ih _
    · rw [addAll_cons_fragment hi (by rw [hv]; rfl), hv]
      exact ih _
    · rw [hv]
      rfl

theorem value_reported {α : Type} (stage : String) (x : Journaled (Except Error α)) :
    (Journaled.reported stage x).value = x.value := by
  unfold Journaled.reported
  rw [Journaled.value_bind]
  split <;> simp_all

theorem firstError?_eq_none_iff {cs : List FilterCriterion} :
    r.firstError? cs = none ↔ ∀ c ∈ cs, (r.verdict c).error? = none :=
  List.findSome?_eq_none_iff

/-- The filter of a registry is there if nothing is missing and no criterion is refused. -/
theorem compileFilter_eq_ok_iff {f : Filter ε} :
    r.compileFilter.value = .ok f ↔
      r.isInitialized ∧ r.missingField? = none ∧
        (∀ c ∈ r.filters, (r.verdict c).error? = none) ∧ r.addAll .identity r.filters = f := by
  rw [compileFilter, value_reported, ← firstError?_eq_none_iff]
  cases r.isInitialized with
  | false => simp
  | true =>
    cases r.missingField? with
    | some m => simp
    | none =>
      cases hc : r.filters with
      | nil => simp [firstError?, addAll, fragmentsOf, Filter.identity]
      | cons c cs =>
        simp only [Bool.not_true, Bool.false_eq_true, if_false, List.isEmpty_cons,
          value_compileCriteria, true_and]
        cases r.firstError? (c :: cs) <;> simp

theorem hasFragment_of_accepted {c : FilterCriterion} (h : (r.verdict c).error? = none)
    (hi : r.isInert c = false) :
    ∃ p, (r.verdict c).fragment? = some p ∧ r.HasFragment c p := by
  rcases verdict_of_accepted h with ⟨hi', -⟩ | ⟨-, hp⟩
  · simp [hi] at hi'
  · exact hp

theorem HasFragment.unique {c : FilterCriterion} {p q : Predicate ε} (hp : r.HasFragment c p)
    (hq : r.HasFragment c q) : p = q := by
  obtain ⟨m, hm, hp⟩ := hp
  obtain ⟨n, hn, hq⟩ := hq
  rw [hm] at hn
  cases hn
  rw [hp] at hq
  exact Except.ok.inj hq

theorem length_fragmentsOf {cs : List FilterCriterion}
    (h : ∀ c ∈ cs, (r.verdict c).error? = none) :
    (r.fragmentsOf cs).length + (cs.filter r.isInert).length = cs.length := by
  induction cs with
  | nil => rfl
  | cons c cs ih =>
    have ih := ih fun d hd => h d (List.mem_cons_of_mem c hd)
    rcases verdict_of_accepted (h c List.mem_cons_self) with ⟨hi, hv⟩ | ⟨hi, p, hv, -⟩
    · simp only [fragmentsOf_cons_none hv, List.filter_cons_of_pos hi, List.length_cons]
      omega
    · have hi : ¬ r.isInert c = true := by simp [hi]
      simp only [fragmentsOf_cons_some hv, List.filter_cons_of_neg hi, List.length_cons]
      omega

/-- The fragments are those of the criteria that are not inert. -/
theorem mem_fragmentsOf_iff {cs : List FilterCriterion} {p : Predicate ε}
    (h : ∀ c ∈ cs, (r.verdict c).error? = none) :
    p ∈ r.fragmentsOf cs ↔ ∃ c ∈ cs, r.isInert c = false ∧ r.HasFragment c p := by
  constructor
  · intro hp
    obtain ⟨c, hc, hv⟩ := List.mem_filterMap.mp hp
    rcases verdict_of_accepted (h c hc) with ⟨-, hn⟩ | ⟨hi, q, hq, hf⟩
    · rw [hv] at hn
      cases hn
    · rw [hv] at hq
      cases hq
      exact ⟨c, hc, hi, hf⟩
  · intro hp
    obtain ⟨c, hc, hi, hf⟩ := hp
    obtain ⟨q, hq, hf'⟩ := hasFragment_of_accepted (h c hc) hi
    rw [hf.unique hf']
    exact List.mem_filterMap.mpr ⟨c, hc, hq⟩

/-- The conjunction of the fragments asks for all of them. -/
theorem holds_addAll_iff {cs : List FilterCriterion}
    (h : ∀ c ∈ cs, (r.verdict c).error? = none) (e : ε) :
    (r.addAll .identity cs).holds e = true ↔
      ∀ c ∈ cs, r.isInert c = false → ∃ p, r.HasFragment c p ∧ p.holds e = true := by
  have hf : (r.addAll .identity cs).holds e = (r.fragmentsOf cs).all (·.holds e) := by
    simp [Filter.holds, addAll, Predicate.holds_foldl_and, Filter.identity, Predicate.holds]
  rw [hf, List.all_eq_true]
  constructor
  · intro hall c hc hi
    obtain ⟨p, -, hp⟩ := hasFragment_of_accepted (h c hc) hi
    exact ⟨p, hp, hall p ((mem_fragmentsOf_iff h).mpr ⟨c, hc, hi, hp⟩)⟩
  · intro hall p hp
    obtain ⟨c, hc, hi, hp⟩ := (mem_fragmentsOf_iff h).mp hp
    obtain ⟨q, hq, hh⟩ := hall c hc hi
    rwa [hp.unique hq]

end Registry

namespace Filtered

/-- What asking for the next entity again and again yields, up to the first time there is none. -/
inductive Yields : Filtered ε → List ε → Prop
  | done {s s' : Filtered ε} (h : s.next? = (none, s')) : Yields s []
  | next {s s' : Filtered ε} {e : ε} {es : List ε} (h : s.next? = (some e, s'))
      (rest : Yields s' es) : Yields s (e :: es)

theorem next?_cons_of_holds {f : Filter ε} {x : ε} (h : f.holds x = true) (xs : List ε) :
    next? ⟨f, x :: xs⟩ = (some x, ⟨f, xs⟩) := by
  simp [next?, h]

theorem next?_cons_of_not_holds {f : Filter ε} {x : ε} (h : ¬ f.holds x = true) (xs : List ε) :
    next? ⟨f, x :: xs⟩ = next? ⟨f, xs⟩ := by
  simp [next?, h]

theorem Yields.congr {s t : Filtered ε} {es : List ε} (h : s.next? = t.next?)
    (hs : Yields s es) : Yields t es := by
  cases hs with
  | done hn => exact .done (h ▸ hn)
  | next hn rest => exact .next (h ▸ hn) rest

theorem Yields.unique {s : Filtered ε} {es fs : List ε} (he : Yields s es) (hf : Yields s fs) :
    es = fs := by
  induction he generalizing fs with
  | done hn =>
    cases hf with
    | done => rfl
    | next hn' => simp [hn] at hn'
  | next hn _ ih =>
    cases hf with
    | done hn' => simp [hn] at hn'
    | next hn' rest =>
      rw [hn] at hn'
      cases hn'
      rw [ih rest]

theorem yields_filter (f : Filter ε) (source : List ε) :
    Yields ⟨f, source⟩ (source.filter f.holds) := by
  induction source with
  | nil => exact .done rfl
  | cons x xs ih =>
    by_cases h : f.holds x = true
    · rw [List.filter_cons_of_pos h]
      exact .next (next?_cons_of_holds h xs) ih
    · rw [List.filter_cons_of_neg h]
      exact ih.congr (next?_cons_of_not_holds h xs).symm

theorem yields_iff {f : Filter ε} {source out : List ε} :
    Yields ⟨f, source⟩ out ↔ out = source.filter f.holds := by
  constructor
  · intro h
    exact h.unique (yields_filter f source)
  · rintro rfl
    exact yields_filter f source

end Filtered

namespace Registry

variable {r : Registry ε} {f : Filter ε}

theorem not_mem_skipped_iff {c : FilterCriterion} {cs : List FilterCriterion} (hc : c ∈ cs) :
    c ∉ (r.addAll .identity cs).skipped ↔ r.isInert c = false := by
  simp [addAll, Filter.identity, hc]

variable (r f) in
/-- The filter is the composition of the registry's criteria: each is skipped or compiled, and all
compiled ones have to hold. -/
structure Composed : Prop where
  skipped_eq : f.skipped = r.filters.filter r.isInert
  compiled : ∀ c ∈ r.filters, c ∉ f.skipped → ∃ p, r.HasFragment c p
  count_eq : f.fragments + f.skipped.length = r.filters.length
  holds_iff : ∀ e, f.holds e = true ↔
    ∀ c ∈ r.filters, c ∉ f.skipped → ∃ p, r.HasFragment c p ∧ p.holds e = true
  apply_eq : ∀ source, f.apply source = source.filter f.holds
  yields_iff : ∀ source out, Filtered.Yields ⟨f, source⟩ out ↔ out = f.apply source

theorem compileFilter_composed (hf : r.compileFilter.value = .ok f) : r.Composed f := by
  obtain ⟨-, -, h, rfl⟩ := compileFilter_eq_ok_iff.mp hf
  constructor
  case skipped_eq => simp [addAll, Filter.identity]
  case compiled =>
    intro c hc hs
    obtain ⟨p, -, hp⟩ := hasFragment_of_accepted (h c hc) ((not_mem_skipped_iff hc).mp hs)
    exact ⟨p, hp⟩
  case count_eq => simpa [addAll, Filter.identity] using length_fragmentsOf h
  case holds_iff =>
    intro e
    rw [holds_addAll_iff h]
    exact forall₂_congr fun c hc => by rw [not_mem_skipped_iff hc]
  case apply_eq => exact fun source => rfl
  case yields_iff => exact fun source out => Filtered.yields_iff

/-- A level that may be null and has to be asked about. -/
def level : Mapping (Option Int32) := .ofFunction "Level" id true

/-- A registry of levels, with a criterion on no field, one that counts and an empty one. -/
def levels : Registry (Option Int32) where
  mappings := [level]
  index := [("level", 0)]
  filters := [⟨"color", .equals, "red"⟩, ⟨" LEVEL ", .notBetween, "1, 5"⟩, ⟨"level", .equals, ""⟩]
  sorts := []
  config := {}

theorem levels_built : levels.Built := ⟨{ mappings := [level], filters := levels.filters }, rfl⟩

theorem levels_composed : ∃ f, levels.compileFilter.value = .ok f ∧ levels.Composed f :=
  ⟨_, rfl, compileFilter_composed rfl⟩

/-! Required fields -/

/-- A field that is not missing has a criterion with a value that counts. -/
theorem exists_target_of_required (hm : r.missingField? = none) {m : Mapping ε}
    (h : m ∈ r.mappings) (hq : m.required = true) :
    ∃ c ∈ r.filters, c.targets m.key = true ∧ r.switchesOff c = false := by
  have := List.find?_eq_none.mp hm m h
  simpa [hq] using this

/-- A criterion that survives stands behind every required field. -/
theorem required_field_is_filtered (hr : r.Built) (hf : r.compileFilter.value = .ok f)
    {m : Mapping ε} (hm : m ∈ r.mappings) (hq : m.required = true) :
    ∃ c ∈ r.filters, r.lookup c.field = some m ∧ c ∉ f.skipped ∧
      ∃ p, m.fragment r.config c.operator c.value = .ok p ∧
        ∀ e, f.holds e = true → p.holds e = true := by
  obtain ⟨-, hmissing, h, rfl⟩ := compileFilter_eq_ok_iff.mp hf
  obtain ⟨c, hc, ht, hs⟩ := exists_target_of_required hmissing hm hq
  have hl : r.lookup c.field = some m := (hr.lookup_eq_some_iff_targets hm).mpr ht
  have hi : r.isInert c = false := by simp [isInert, hl, hs]
  obtain ⟨p, -, hp⟩ := hasFragment_of_accepted (h c hc) hi
  refine ⟨c, hc, hl, ?_, p, ?_, ?_⟩
  · exact (not_mem_skipped_iff hc).mpr hi
  · obtain ⟨n, hn, hp⟩ := hp
    rw [hl] at hn
    cases hn
    exact hp
  · intro e he
    obtain ⟨q, hq, hh⟩ := (holds_addAll_iff h e).mp he c hc hi
    rwa [hp.unique hq]

theorem required_level_is_filtered :
    level ∈ levels.mappings ∧ level.required = true ∧
      ∃ f, levels.compileFilter.value = .ok f ∧
        ∃ c ∈ levels.filters, levels.lookup c.field = some level ∧ c ∉ f.skipped ∧
          ∃ p, level.fragment levels.config c.operator c.value = .ok p ∧
            ∀ e, f.holds e = true → p.holds e = true :=
  ⟨List.mem_cons_self, rfl, _, rfl,
    required_field_is_filtered levels_built rfl List.mem_cons_self rfl⟩

end Registry

end Sift
