import Sift.Proofs.Registry
import Sift.Proofs.Text.Key

/-!
# What looking a key up promises

A built registry holds each key once, in its normal form, and every position in its index is that of
the field entered there. So looking up, targeting and comparing normal keys are one and the same,
and none of them sees blanks around a key or the case of its ASCII letters.
-/

namespace Sift

variable {ε : Type}

/-- Entering adds no position but those of the fields, each under its field's normal key. -/
theorem mem_of_enter {index out : KeyIndex} {position : Nat} {ms : List (Mapping ε)}
    (h : index.enter position ms = .ok out) {entry : String × Nat} (he : entry ∈ out) :
    entry ∈ index ∨ ∃ i m, ms[i]? = some m ∧ entry = (m.normal, position + i) := by
  induction ms generalizing index position with
  | nil =>
    cases h
    exact .inl he
  | cons m ms ih =>
    rw [enter_cons] at h
    split at h
    · cases h
    · rcases ih h with hi | ⟨i, n, hn, rfl⟩
      · rcases List.mem_cons.mp hi with rfl | hi
        · exact .inr ⟨0, m, rfl, rfl⟩
        · exact .inl hi
      · refine .inr ⟨i + 1, n, hn, ?_⟩
        rw [Nat.add_assoc, Nat.add_comm 1]

/-- In a list of distinct keys a key stands at one position. -/
theorem DistinctKeys.position_unique {ms : List (Mapping ε)} (hd : DistinctKeys ms) {i j : Nat}
    {m n : Mapping ε} (hi : ms[i]? = some m) (hj : ms[j]? = some n) (h : m.normal = n.normal) :
    i = j := by
  obtain ⟨hil, rfl⟩ := List.getElem?_eq_some_iff.mp hi
  obtain ⟨hjl, rfl⟩ := List.getElem?_eq_some_iff.mp hj
  have hne := List.pairwise_iff_getElem.mp hd
  rcases Nat.lt_trichotomy i j with hij | hij | hij
  · exact absurd h (hne i j hil hjl hij)
  · exact hij
  · exact absurd h.symm (hne j i hjl hil hij)

theorem positionOf?_eq_some_iff {ms : List (Mapping ε)} (hd : DistinctKeys ms) {key : String}
    {position : Nat} :
    positionOf? 0 ms key = some position ↔ ∃ m, ms[position]? = some m ∧ m.normal = key := by
  simp only [positionOf?, Nat.zero_add, Option.map_id']
  constructor
  · intro h
    obtain ⟨hp, hk, -⟩ := List.findIdx?_eq_some_iff_getElem.mp h
    exact ⟨ms[position], List.getElem?_eq_getElem hp, by simpa using hk⟩
  · rintro ⟨m, hm, rfl⟩
    cases hf : ms.findIdx? (·.normal == m.normal) with
    | none =>
      have := List.findIdx?_eq_none_iff.mp hf m (List.mem_of_getElem? hm)
      simp at this
    | some i =>
      obtain ⟨hi, hk, -⟩ := List.findIdx?_eq_some_iff_getElem.mp hf
      have hk : ms[i].normal = m.normal := by simpa using hk
      rw [hd.position_unique (List.getElem?_eq_getElem hi) hm hk]

namespace Registry

variable (r : Registry ε)

/-- The index, the fields and the criteria agree on which field a key names. -/
structure WellIndexed : Prop where
  distinct : r.mappings.Pairwise fun m n => normalKey m.key ≠ normalKey n.key
  position_iff : ∀ key position, r.index.lookup key = some position ↔
    ∃ m, r.mappings[position]? = some m ∧ normalKey m.key = key
  in_range : ∀ entry ∈ r.index, entry.2 < r.mappings.length
  lookup_iff : ∀ s m, r.lookup s = some m ↔ m ∈ r.mappings ∧ normalKey m.key = normalKey s
  one_answer : ∀ (s : String) (i j : Nat) (m n : Mapping ε),
    r.mappings[i]? = some m → r.mappings[j]? = some n →
    normalKey m.key = normalKey s → normalKey n.key = normalKey s → i = j
  found : ∀ m ∈ r.mappings, r.lookup m.key = some m
  blanks : ∀ before s after : String, (∀ c ∈ before.toList, Text.isBlank c = true) →
    (∀ c ∈ after.toList, Text.isBlank c = true) → r.lookup (before ++ s ++ after) = r.lookup s
  ascii : ∀ s t, Text.sameAscii s t = true → r.lookup s = r.lookup t
  targets_iff : ∀ (c : FilterCriterion), ∀ m ∈ r.mappings,
    c.targets m.key = true ↔ r.lookup c.field = some m

variable {r}

theorem lookup_congr {s t : String} (h : normalKey s = normalKey t) : r.lookup s = r.lookup t := by
  unfold lookup
  rw [h]

theorem Built.index_lookup_eq_some_iff (hr : r.Built) {key : String} {position : Nat} :
    r.index.lookup key = some position ↔
      ∃ m, r.mappings[position]? = some m ∧ m.normal = key := by
  rw [hr.entered.lookup, List.lookup_nil, Option.or_none]
  exact positionOf?_eq_some_iff hr.entered.distinct

theorem Built.position_lt (hr : r.Built) {entry : String × Nat} (he : entry ∈ r.index) :
    entry.2 < r.mappings.length := by
  rcases mem_of_enter hr.enter_eq he with h | ⟨i, m, hm, rfl⟩
  · cases h
  · rw [Nat.zero_add]
    exact (List.getElem?_eq_some_iff.mp hm).1

theorem Built.wellIndexed (hr : r.Built) : r.WellIndexed := by
  constructor
  case distinct => exact hr.entered.distinct
  case position_iff => exact fun _ _ => hr.index_lookup_eq_some_iff
  case in_range => exact fun _ he => hr.position_lt he
  case lookup_iff => exact fun _ _ => hr.lookup_eq_some_iff
  case one_answer =>
    intro s i j m n hi hj hm hn
    exact hr.entered.distinct.position_unique hi hj (hm.trans hn.symm)
  case found => exact fun _ hm => hr.lookup_eq_some_iff.mpr ⟨hm, rfl⟩
  case blanks =>
    intro before s after hb ha
    exact lookup_congr (normalKey_padded hb ha s)
  case ascii => exact fun _ _ h => lookup_congr (normalKey_eq_of_sameAscii h)
  case targets_iff => exact fun _ _ hm => (hr.lookup_eq_some_iff_targets hm).symm

/-- A registry of roads. The sigma that ends a key is a final one in small letters. -/
def roads : Registry String where
  mappings := [.ofFunction " ΟΔΟΣ " id true, .ofFunction "Straße" id false]
  index := [("straße", 1), ("οδος", 0)]
  filters := [⟨"οδος", .equals, "5"⟩]
  sorts := []
  config := {}

theorem roads_built : roads.Built := by
  have hs : normalKey " ΟΔΟΣ " = "οδος" := by decide +kernel
  have ht : normalKey "Straße" = "straße" := by decide +kernel
  rw [built_iff]
  simp [roads, KeyIndex.enter, Mapping.ofFunction, hs, ht]

theorem roads_wellIndexed : roads.Built ∧ roads.WellIndexed :=
  ⟨roads_built, roads_built.wellIndexed⟩

end Registry

end Sift
