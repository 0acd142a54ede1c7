import Sift.Registry.Builder

/-!
# The index of a registry that was built

Entering the fields gives every normal key the position of the one field that has it. So looking a
key up finds the field whose normal key it shares, and a criterion finds the field that it targets.
-/

namespace Sift

variable {ε : Type}

/-- The form under which the field is entered. -/
def Mapping.normal (m : Mapping ε) : String := normalKey m.key

def DistinctKeys (ms : List (Mapping ε)) : Prop := ms.Pairwise fun m n => m.normal ≠ n.normal

/-- The position of the field with a normal key, counted from `position`. -/
def positionOf? (position : Nat) (ms : List (Mapping ε)) (key : String) : Option Nat :=
  (ms.findIdx? (·.normal == key)).map (position + ·)

theorem positionOf?_cons_self (position : Nat) (m : Mapping ε) (ms : List (Mapping ε)) :
    positionOf? position (m :: ms) m.normal = some position := by
  simp [positionOf?, List.findIdx?_cons]

theorem positionOf?_cons_of_ne {m : Mapping ε} {key : String} (h : m.normal ≠ key)
    (position : Nat) (ms : List (Mapping ε)) :
    positionOf? position (m :: ms) key = positionOf? (position + 1) ms key := by
  simp [positionOf?, List.findIdx?_cons, h, Function.comp_def, Nat.add_assoc, Nat.add_comm 1]

theorem positionOf?_eq_none {ms : List (Mapping ε)} {key : String}
    (h : ∀ m ∈ ms, m.normal ≠ key) (position : Nat) : positionOf? position ms key = none := by
  simpa [positionOf?, List.findIdx?_eq_none_iff] using h

/-- What entering fields into an index has checked and done. -/
structure Entered (index : KeyIndex) (position : Nat) (ms : List (Mapping ε))
    (out : KeyIndex) : Prop where
  fresh : ∀ m ∈ ms, index.lookup m.normal = none
  distinct : DistinctKeys ms
  lookup : ∀ key, out.lookup key = (positionOf? position ms key).or (index.lookup key)

theorem enter_cons (index : KeyIndex) (position : Nat) (m : Mapping ε) (ms : List (Mapping ε)) :
    index.enter position (m :: ms) =
      if (index.lookup m.normal).isSome then .error (.duplicateField m.key)
      else KeyIndex.enter ((m.normal, position) :: index) (position + 1) ms := rfl

theorem entered_of_enter {index out : KeyIndex} {position : Nat} {ms : List (Mapping ε)}
    (h : index.enter position ms = .ok out) : Entered index position ms out := by
  induction ms generalizing index position with
  | nil =>
    cases h
    exact ⟨by simp, .nil, fun _ => rfl⟩
  | cons m ms ih =>
    rw [enter_cons] at h
    split at h
    · simp at h
    · rename_i hm
      have hi := ih h
      -- a later field is fresh in the longer index, so it is none of this one's name
      have hms : ∀ n ∈ ms, index.lookup n.normal = none ∧ m.normal ≠ n.normal := by
        intro n hn
        have hl := hi.fresh n hn
        simp only [List.lookup_cons] at hl
        split at hl
        · simp at hl
        · exact ⟨hl, by grind⟩
      have hm : index.lookup m.normal = none := Option.not_isSome_iff_eq_none.mp hm
      refine ⟨?_, ?_, ?_⟩
      · intro n hn
        rcases List.mem_cons.mp hn with rfl | hn
        · exact hm
        · exact (hms n hn).1
      · exact List.pairwise_cons.mpr ⟨fun n hn => (hms n hn).2, hi.distinct⟩
      · intro key
        rw [hi.lookup]
        by_cases hk : m.normal = key
        · subst hk
          rw [positionOf?_cons_self, positionOf?_eq_none fun n hn => ((hms n hn).2).symm]
          simp
        · rw [positionOf?_cons_of_ne hk, List.lookup_cons]
          have : (key == m.normal) = false := by simpa using fun h => hk h.symm
          rw [this]

namespace Registry

/-- Some builder has built the registry. -/
def Built (r : Registry ε) : Prop := ∃ b : Builder ε, b.build.1.value = .ok r

variable {r : Registry ε}

theorem Built.enter_eq (hr : r.Built) : KeyIndex.enter [] 0 r.mappings = .ok r.index := by
  obtain ⟨b, hb⟩ := hr
  change b.registry = .ok r at hb
  unfold Builder.registry at hb
  split at hb
  · cases hb
  · split at hb
    · cases hb
    · cases hi : KeyIndex.enter [] 0 b.mappings with
      | error e => simp [hi, Except.map] at hb
      | ok index =>
        simp only [hi, Except.map, Except.ok.injEq] at hb
        subst hb
        exact hi

/-- Any fields that can be entered make a registry, whatever the criteria and the configuration. -/
theorem built_iff : r.Built ↔ KeyIndex.enter [] 0 r.mappings = .ok r.index := by
  constructor
  · exact Built.enter_eq
  · intro h
    let b : Builder ε := ⟨r.mappings, [], r.filters, r.sorts, r.config, false⟩
    have hb : b.registry = .ok r := by simp [b, Builder.registry, h, Except.map]
    exact ⟨b, hb⟩

theorem Built.entered (hr : r.Built) : Entered [] 0 r.mappings r.index :=
  entered_of_enter hr.enter_eq

/-- The index finds what a search through the fields would find. -/
theorem Built.lookup_eq_find? (hr : r.Built) (field : String) :
    r.lookup field = r.mappings.find? (·.normal == normalKey field) := by
  unfold lookup
  rw [hr.entered.lookup, List.find?_eq_bind_findIdx?_getElem?]
  simp [positionOf?]

theorem Built.lookup_eq_some_iff (hr : r.Built) {field : String} {m : Mapping ε} :
    r.lookup field = some m ↔ m ∈ r.mappings ∧ m.normal = normalKey field := by
  rw [hr.lookup_eq_find?]
  constructor
  · intro h
    exact ⟨List.mem_of_find?_eq_some h, by simpa using List.find?_some h⟩
  · rintro ⟨hm, hk⟩
    obtain ⟨before, after, hs⟩ := List.append_of_mem hm
    have hd := hr.entered.distinct
    simp only [DistinctKeys, hs, List.pairwise_append] at hd
    refine List.find?_eq_some_iff_append.mpr ⟨by simpa using hk, before, after, hs, ?_⟩
    intro n hn
    have hne := hd.2.2 n hn m List.mem_cons_self
    simpa [← hk] using hne

theorem Built.lookup_eq_some_iff_targets (hr : r.Built) {c : FilterCriterion} {m : Mapping ε}
    (hm : m ∈ r.mappings) : r.lookup c.field = some m ↔ c.targets m.key := by
  rw [hr.lookup_eq_some_iff, FilterCriterion.targets, beq_iff_eq]
  exact ⟨fun h => h.2.symm, fun h => ⟨hm, h.symm⟩⟩

end Registry

end Sift
