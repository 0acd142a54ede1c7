import Sift.Proofs.Registry

/-!
# The life of a builder

A run is a list of calls on one builder. What a builder holds is told by the calls alone: fields and
unresolved paths in the order of the calls, of criteria those since the last call that replaced
them. The first attempt to build sees exactly that, and decides; whatever it leaves of the builder,
every later attempt is refused.
-/

namespace Sift

variable {τ ν ε : Type} [Navigable ν]

theorem lookup_cons_eq_none {key k : String} {position : Nat} {index : KeyIndex}
    (h : ((k, position) :: index).lookup key = none) : key ≠ k ∧ index.lookup key = none := by
  rw [List.lookup_cons] at h
  split at h
  · cases h
  · exact ⟨by simp_all, h⟩

/-- Entering fails at the first field whose key is taken. -/
theorem taken_of_enter {index : KeyIndex} {position : Nat} {ms : List (Mapping ε)} {e : Error}
    (h : index.enter position ms = .error e) :
    ∃ before m after, ms = before ++ m :: after ∧ DistinctKeys before ∧
      (∀ n ∈ before, index.lookup n.normal = none) ∧
      ((index.lookup m.normal).isSome ∨ ∃ n ∈ before, n.normal = m.normal) ∧
      e = .duplicateField m.key := by
  induction ms generalizing index position with
  | nil => cases h
  | cons m ms ih =>
    rw [enter_cons] at h
    split at h
    · rename_i hm
      cases h
      exact ⟨[], m, ms, rfl, .nil, by simp, .inl hm, rfl⟩
    · rename_i hm
      obtain ⟨before, n, after, rfl, hd, hfresh, hn, rfl⟩ := ih h
      have hfresh := fun k hk => lookup_cons_eq_none (hfresh k hk)
      refine ⟨m :: before, n, after, rfl, ?_, ?_, ?_, rfl⟩
      · exact List.pairwise_cons.mpr ⟨fun k hk => (hfresh k hk).1.symm, hd⟩
      · intro k hk
        rcases List.mem_cons.mp hk with rfl | hk
        · exact Option.not_isSome_iff_eq_none.mp hm
        · exact (hfresh k hk).2
      · rcases hn with hn | ⟨k, hk, hkn⟩
        · by_cases hmn : m.normal = n.normal
          · exact .inr ⟨m, List.mem_cons_self, hmn⟩
          · rw [List.lookup_cons] at hn
            have hne : (n.normal == m.normal) = false := by simpa using fun h => hmn h.symm
            rw [hne] at hn
            exact .inl hn
        · exact .inr ⟨k, List.mem_cons_of_mem m hk, hkn⟩

theorem duplicate_of_enter {ms : List (Mapping ε)} {e : Error}
    (h : KeyIndex.enter [] 0 ms = .error e) :
    ∃ before m after, ms = before ++ m :: after ∧ DistinctKeys before ∧
      (∃ n ∈ before, n.normal = m.normal) ∧ e = .duplicateField m.key := by
  obtain ⟨before, m, after, hs, hd, -, hm, he⟩ := taken_of_enter h
  exact ⟨before, m, after, hs, hd, by simpa using hm, he⟩

namespace Builder

theorem isInitialized_spent (b : Builder ε) : b.spent.isInitialized = true := by
  unfold spent
  split
  · assumption
  · split <;> rfl

/-- A call on a builder. -/
inductive Call (ε : Type) : Type 1
  | register {α : Type} [ScalarType α] (key : String) (read : ε → α)
  | registerRequired {α : Type} [ScalarType α] (key : String) (read : ε → α)
  | registerPath (key path : String)
  | registerRequiredPath (key path : String)
  | registerMapping (m : Mapping ε)
  | setFilters (cs : List FilterCriterion)
  | addFilter (c : FilterCriterion)
  | setSorts (cs : List SortCriterion)
  | addSort (c : SortCriterion)
  | withRequest (r : Request)
  | withConfig (c : Config)
  | build

namespace Call

/-- The builder after the call. Paths are resolved in the layout of the entities. -/
def apply (l : Layout τ ε ν) (b : Builder ε) : Call ε → Builder ε
  | register key read => b.register key read
  | registerRequired key read => b.registerRequired key read
  | registerPath key path => b.registerPath l key path
  | registerRequiredPath key path => b.registerRequiredPath l key path
  | registerMapping m => b.registerMapping m
  | setFilters cs => b.setFilters cs
  | addFilter c => b.addFilter c
  | setSorts cs => b.setSorts cs
  | addSort c => b.addSort c
  | withRequest r => b.withRequest r
  | withConfig c => b.withConfig c
  | build => b.build.2

/-- What the call returns if it is an attempt to build. -/
def outcome? (b : Builder ε) : Call ε → Option (Except Error (Registry ε))
  | build => some b.build.1.value
  | _ => none

def isBuild : Call ε → Bool
  | build => true
  | _ => false

/-! What a call asks for -/

/-- The field that the call registers. -/
def mapping? (l : Layout τ ε ν) : Call ε → Option (Mapping ε)
  | register key read => some (.ofFunction key read false)
  | registerRequired key read => some (.ofFunction key read true)
  | registerPath key path => (l.resolve path).toOption.map (l.mapping key · false)
  | registerRequiredPath key path => (l.resolve path).toOption.map (l.mapping key · true)
  | registerMapping m => some m
  | _ => none

/-- Why the path of the call has no field at its end. -/
def pathError? (l : Layout τ ε ν) : Call ε → Option Error
  | registerPath _ path | registerRequiredPath _ path => match l.resolve path with
    | .ok _ => none
    | .error e => some e
  | _ => none

/-- The filter criteria that the call puts in the place of all others. -/
def filters? : Call ε → Option (List FilterCriterion)
  | setFilters cs => some cs
  | withRequest r => some r.filters
  | _ => none

def filter? : Call ε → Option FilterCriterion
  | addFilter c => some c
  | _ => none

/-- The sort criteria that the call puts in the place of all others. -/
def sorts? : Call ε → Option (List SortCriterion)
  | setSorts cs => some cs
  | withRequest r => some r.sorts
  | _ => none

def sort? : Call ε → Option SortCriterion
  | addSort c => some c
  | _ => none

def config? : Call ε → Option Config
  | withConfig c => some c
  | _ => none

theorem registerResolved_eq (l : Layout τ ε ν) (b : Builder ε) (key path : String)
    (required : Bool) :
    b.registerResolved l key path required = { b with
      mappings := b.mappings ++ ((l.resolve path).toOption.map (l.mapping key · required)).toList
      deferred := b.deferred ++ (match l.resolve path with
        | .ok _ => none
        | .error e => some e).toList } := by
  unfold registerResolved
  cases l.resolve path <;> simp [Builder.registerMapping, Except.toOption]

/-- All that a call does to a builder, other than an attempt to build. -/
theorem apply_eq (l : Layout τ ε ν) (b : Builder ε) {c : Call ε} (hc : c.isBuild = false) :
    c.apply l b = {
      mappings := b.mappings ++ (c.mapping? l).toList
      deferred := b.deferred ++ (c.pathError? l).toList
      filters := c.filters?.getD (b.filters ++ c.filter?.toList)
      sorts := c.sorts?.getD (b.sorts ++ c.sort?.toList)
      config := c.config?.getD b.config
      isInitialized := b.isInitialized } := by
  cases c
  case build => cases hc
  case registerPath key path | registerRequiredPath key path =>
    simp [apply, Builder.registerPath, Builder.registerRequiredPath, registerResolved_eq, mapping?,
      pathError?, filters?, filter?, sorts?, sort?, config?]
  all_goals
    simp [apply, Builder.register, Builder.registerRequired, Builder.registerMapping,
      Builder.setFilters, Builder.addFilter, Builder.setSorts, Builder.addSort,
      Builder.withRequest, Builder.withConfig, mapping?, pathError?, filters?, filter?, sorts?,
      sort?, config?]

theorem eq_build {c : Call ε} (h : c.isBuild = true) : c = .build := by
  cases c <;> first | rfl | cases h

theorem isInitialized_apply (l : Layout τ ε ν) (b : Builder ε) (c : Call ε) :
    (c.apply l b).isInitialized = (b.isInitialized || c.isBuild) := by
  cases hc : c.isBuild with
  | false => rw [apply_eq l b hc, Bool.or_false]
  | true =>
    obtain rfl := eq_build hc
    rw [Bool.or_true]
    exact isInitialized_spent b

end Call

/-! Runs -/

def run (l : Layout τ ε ν) (b : Builder ε) (calls : List (Call ε)) : Builder ε :=
  calls.foldl (fun b c => c.apply l b) b

theorem isInitialized_run (l : Layout τ ε ν) (b : Builder ε) (calls : List (Call ε)) :
    (run l b calls).isInitialized = (b.isInitialized || calls.any (·.isBuild)) := by
  induction calls generalizing b with
  | nil => simp [run]
  | cons c cs ih =>
    have hstep : run l b (c :: cs) = run l (c.apply l b) cs := rfl
    rw [hstep, ih, Call.isInitialized_apply, List.any_cons, Bool.or_assoc]

/-- What the attempts to build return, one after the other. -/
def outcomes (l : Layout τ ε ν) (b : Builder ε) : List (Call ε) →
    List (Except Error (Registry ε))
  | [] => []
  | c :: cs => (c.outcome? b).toList ++ outcomes l (c.apply l b) cs

/-- The value of the last call that set one, or else the initial one, and the calls since. -/
inductive Latest {β : Type} (set? : Call ε → Option β) (initial : β) :
    List (Call ε) → β → List (Call ε) → Prop
  | unset {calls : List (Call ε)} (h : ∀ c ∈ calls, set? c = none) :
    Latest set? initial calls initial calls
  | set {before since : List (Call ε)} {c : Call ε} {v : β} (hc : set? c = some v)
    (h : ∀ d ∈ since, set? d = none) : Latest set? initial (before ++ c :: since) v since

/-- What calls leave of a list that some of them replace and others append to. -/
def Collected {β : Type} (replace? : Call ε → Option (List β)) (add? : Call ε → Option β)
    (calls : List (Call ε)) (out : List β) : Prop :=
  ∃ start since, Latest replace? [] calls start since ∧ out = start ++ since.filterMap add?

theorem Latest.snoc_set {β : Type} {set? : Call ε → Option β} {initial : β} {c : Call ε} {v : β}
    (hc : set? c = some v) (calls : List (Call ε)) :
    Latest set? initial (calls ++ [c]) v [] :=
  .set hc (by simp)

theorem Latest.snoc_unset {β : Type} {set? : Call ε → Option β} {initial : β}
    {calls since : List (Call ε)} {v : β} (h : Latest set? initial calls v since) {c : Call ε}
    (hc : set? c = none) : Latest set? initial (calls ++ [c]) v (since ++ [c]) := by
  have hsnoc : ∀ {cs : List (Call ε)}, (∀ d ∈ cs, set? d = none) →
      ∀ d ∈ cs ++ [c], set? d = none := by
    intro cs hcs d hd
    rcases List.mem_append.mp hd with hd | hd
    · exact hcs d hd
    · rw [List.mem_singleton.mp hd, hc]
  cases h with
  | unset h => exact .unset (hsnoc h)
  | set hv h =>
    rw [List.append_assoc, List.cons_append]
    exact .set hv (hsnoc h)

theorem Collected.snoc {β : Type} {replace? : Call ε → Option (List β)}
    {add? : Call ε → Option β} {calls : List (Call ε)} {out : List β}
    (h : Collected replace? add? calls out) (c : Call ε) :
    Collected replace? add? (calls ++ [c]) ((replace? c).getD (out ++ (add? c).toList)) := by
  cases hc : replace? c with
  | some start => exact ⟨start, [], .snoc_set hc calls, by simp⟩
  | none =>
    obtain ⟨start, since, hl, rfl⟩ := h
    refine ⟨start, since ++ [c], hl.snoc_unset hc, ?_⟩
    cases ha : add? c <;> simp [ha]

/-- The fields that calls register, in order. -/
def registered (l : Layout τ ε ν) (calls : List (Call ε)) : List (Mapping ε) :=
  calls.filterMap (·.mapping? l)

/-- What is wrong with the paths of calls, in order. -/
def pathErrors (l : Layout τ ε ν) (calls : List (Call ε)) : List Error :=
  calls.filterMap (·.pathError? l)

/-- The builder holds what the calls have asked for, none of which was an attempt to build. -/
structure Gathered (l : Layout τ ε ν) (calls : List (Call ε)) (b : Builder ε) : Prop where
  mappings : b.mappings = registered l calls
  deferred : b.deferred = pathErrors l calls
  filters : Collected Call.filters? Call.filter? calls b.filters
  sorts : Collected Call.sorts? Call.sort? calls b.sorts
  config : ∃ since, Latest Call.config? {} calls b.config since
  isInitialized : b.isInitialized = false

theorem gathered_nil (l : Layout τ ε ν) : Gathered l [] {} where
  mappings := rfl
  deferred := rfl
  filters := ⟨[], [], .unset (by simp), rfl⟩
  sorts := ⟨[], [], .unset (by simp), rfl⟩
  config := ⟨[], .unset (by simp)⟩
  isInitialized := rfl

theorem Gathered.apply {l : Layout τ ε ν} {calls : List (Call ε)} {b : Builder ε}
    (h : Gathered l calls b) {c : Call ε} (hb : c.isBuild = false) :
    Gathered l (calls ++ [c]) (c.apply l b) := by
  rw [Call.apply_eq l b hb]
  constructor
  case mappings =>
    rw [h.mappings]
    cases hc : c.mapping? l <;> simp [registered, hc]
  case deferred =>
    rw [h.deferred]
    cases hc : c.pathError? l <;> simp [pathErrors, hc]
  case filters => exact h.filters.snoc c
  case sorts => exact h.sorts.snoc c
  case config =>
    cases hc : c.config? with
    | some v => exact ⟨[], .snoc_set hc calls⟩
    | none =>
      obtain ⟨since, hl⟩ := h.config
      exact ⟨since ++ [c], hl.snoc_unset hc⟩
  case isInitialized => exact h.isInitialized

theorem Gathered.run {l : Layout τ ε ν} {done : List (Call ε)} {b : Builder ε}
    (h : Gathered l done b) {calls : List (Call ε)} (hb : ∀ c ∈ calls, c.isBuild = false) :
    Gathered l (done ++ calls) (b.run l calls) := by
  induction calls generalizing done b with
  | nil => simpa [Builder.run] using h
  | cons c cs ih =>
    obtain ⟨hc, hcs⟩ := List.forall_mem_cons.mp hb
    simpa [Builder.run] using ih (h.apply hc) hcs

theorem gathered_run (l : Layout τ ε ν) {calls : List (Call ε)}
    (hb : ∀ c ∈ calls, c.isBuild = false) : Gathered l calls (run l {} calls) :=
  (gathered_nil l).run hb

/-! The first attempt -/

/-- The registry of what calls have asked for. -/
structure IsRegistryOf (l : Layout τ ε ν) (calls : List (Call ε)) (r : Registry ε) : Prop where
  mappings : r.mappings = registered l calls
  lookup : ∀ field,
    r.lookup field = (registered l calls).find? fun m => m.normal == normalKey field
  filters : Collected Call.filters? Call.filter? calls r.filters
  sorts : Collected Call.sorts? Call.sort? calls r.sorts
  config : ∃ since, Latest Call.config? {} calls r.config since

/-- What the first attempt to build returns after calls: the first unresolved path, or else the
first field whose key is taken, or else the registry. -/
inductive FirstOutcome (l : Layout τ ε ν) (calls : List (Call ε)) :
    Except Error (Registry ε) → Prop
  | unresolved {e : Error} {es : List Error} (h : pathErrors l calls = e :: es) :
    FirstOutcome l calls (.error e)
  | duplicate {before after : List (Mapping ε)} {m : Mapping ε} (hp : pathErrors l calls = [])
    (h : registered l calls = before ++ m :: after) (hb : DistinctKeys before)
    (hm : ∃ n ∈ before, n.normal = m.normal) :
    FirstOutcome l calls (.error (.duplicateField m.key))
  | built {r : Registry ε} (hp : pathErrors l calls = []) (hd : DistinctKeys (registered l calls))
    (hr : IsRegistryOf l calls r) : FirstOutcome l calls (.ok r)

theorem registry_of_initialized {b : Builder ε} (h : b.isInitialized = true) :
    b.registry = .error .alreadyInitialized := by
  simp [registry, h]

theorem Gathered.firstOutcome {l : Layout τ ε ν} {calls : List (Call ε)} {b : Builder ε}
    (h : Gathered l calls b) : FirstOutcome l calls b.registry := by
  have hi := h.isInitialized
  cases hp : pathErrors l calls with
  | cons e es =>
    have hr : b.registry = .error e := by simp [registry, hi, h.deferred, hp]
    rw [hr]
    exact .unresolved hp
  | nil =>
    cases he : KeyIndex.enter [] 0 b.mappings with
    | error e =>
      have hr : b.registry = .error e := by simp [registry, hi, h.deferred, hp, he, Except.map]
      obtain ⟨before, m, after, hs, hd, hm, rfl⟩ := duplicate_of_enter he
      rw [hr]
      exact .duplicate hp (h.mappings.symm.trans hs) hd hm
    | ok index =>
      have hr : b.registry = .ok ⟨b.mappings, index, b.filters, b.sorts, b.config⟩ := by
        simp [registry, hi, h.deferred, hp, he, Except.map]
      have hbuilt : Registry.Built ⟨b.mappings, index, b.filters, b.sorts, b.config⟩ := ⟨b, hr⟩
      rw [hr]
      refine .built hp ?_ ⟨h.mappings, ?_, h.filters, h.sorts, h.config⟩
      · rw [← h.mappings]
        exact hbuilt.entered.distinct
      · intro field
        rw [hbuilt.lookup_eq_find?, h.mappings]

/-! All attempts -/

theorem outcomes_append (l : Layout τ ε ν) (b : Builder ε) (xs ys : List (Call ε)) :
    outcomes l b (xs ++ ys) = outcomes l b xs ++ outcomes l (run l b xs) ys := by
  induction xs generalizing b with
  | nil => rfl
  | cons c cs ih => simp [outcomes, run, ih]

theorem outcome?_of_not_build {b : Builder ε} {c : Call ε} (h : c.isBuild = false) :
    c.outcome? b = none := by
  cases c <;> first | rfl | cases h

theorem outcomes_of_no_build {l : Layout τ ε ν} {calls : List (Call ε)}
    (h : ∀ c ∈ calls, c.isBuild = false) (b : Builder ε) : outcomes l b calls = [] := by
  induction calls generalizing b with
  | nil => rfl
  | cons c cs ih =>
    rw [outcomes, outcome?_of_not_build (h c List.mem_cons_self)]
    exact ih (fun d hd => h d (List.mem_cons_of_mem c hd)) _

/-- Once an attempt was made, all that follow are refused. -/
theorem outcomes_of_initialized {l : Layout τ ε ν} {b : Builder ε} (h : b.isInitialized = true)
    (calls : List (Call ε)) :
    outcomes l b calls =
      List.replicate (calls.countP (·.isBuild)) (.error .alreadyInitialized) := by
  induction calls generalizing b with
  | nil => rfl
  | cons c cs ih =>
    have hnext : (c.apply l b).isInitialized = true := by simp [Call.isInitialized_apply, h]
    rw [outcomes, ih hnext]
    cases hc : c.isBuild with
    | false => simp [outcome?_of_not_build hc, hc]
    | true =>
      obtain rfl := Call.eq_build hc
      have ho : Call.outcome? b .build = some (.error .alreadyInitialized) :=
        congrArg some (registry_of_initialized h)
      simp [ho, hc, List.replicate_succ]

/-- How the attempts of a run turn out. -/
inductive LifeCycle (l : Layout τ ε ν) : List (Call ε) → List (Except Error (Registry ε)) → Prop
  | unbuilt {calls : List (Call ε)} (h : ∀ c ∈ calls, c.isBuild = false) : LifeCycle l calls []
  | built {before after : List (Call ε)} {first : Except Error (Registry ε)}
    (hb : ∀ c ∈ before, c.isBuild = false) (hf : FirstOutcome l before first) :
    LifeCycle l (before ++ .build :: after)
      (first :: List.replicate (after.countP (·.isBuild)) (.error .alreadyInitialized))

/-- The first attempt to build decides, by the calls before it; every later one is refused. The
builder counts as initialized from the first attempt on. -/
theorem outcomes_lifeCycle (l : Layout τ ε ν) (calls : List (Call ε)) :
    LifeCycle l calls (outcomes l {} calls) ∧
      ((run l {} calls).isInitialized = true ↔ ∃ c ∈ calls, c.isBuild = true) := by
  constructor
  · cases hc : calls.find? (·.isBuild) with
    | none =>
      have hb : ∀ c ∈ calls, c.isBuild = false := by simpa using hc
      rw [outcomes_of_no_build hb]
      exact .unbuilt hb
    | some c =>
      obtain ⟨h, before, after, rfl, hb⟩ := List.find?_eq_some_iff_append.mp hc
      obtain rfl := Call.eq_build h
      have hb : ∀ d ∈ before, d.isBuild = false := by simpa using hb
      have hg := gathered_run l hb
      rw [outcomes_append, outcomes_of_no_build hb, List.nil_append, outcomes]
      have hnext : (Call.apply l (run l {} before) .build).isInitialized = true :=
        isInitialized_spent _
      rw [outcomes_of_initialized hnext]
      exact .built hb hg.firstOutcome
  · simp [isInitialized_run]

end Builder

end Sift
