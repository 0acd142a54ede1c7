import Sift.Proofs.Meaning.Laws
import Sift.Proofs.Text.Stretch

/-!
# Ignoring the case of letters

Where case is ignored, value and operand are lowered before they are compared. Equal texts stay
equal, so that equality and membership are only widened. An operand that stands inside the value is
still found if its capital sigmas are lowered there as they are in the operand itself; at the
beginning and at the end of the value it is found in no other case.
-/

namespace Sift

open Text.Case (KeepsSigmas meetsCased)

variable {ε : Type}

/-- The same configuration with another treatment of case. -/
def Config.withMatching (c : Config) (t : TextMatching) : Config := { c with textMatching := t }

namespace Operator

/-- The operators that look for the operand inside the value. -/
def searches : List Operator := [contains, startsWith, endsWith]

/-- The operators that ask whether the whole value is the operand, or one of its tokens. -/
def equalities : List Operator := [equals, oneOf]

/-- The operator finds the operand in a text, between what stands before it and after it. -/
inductive Finds (raw s : String) : Operator → List Char → List Char → Prop
  | contains {before after : List Char} (h : s.toList = before ++ raw.toList ++ after) :
      Finds raw s contains before after
  | startsWith {after : List Char} (h : s.toList = raw.toList ++ after) :
      Finds raw s startsWith [] after
  | endsWith {before : List Char} (h : s.toList = before ++ raw.toList) :
      Finds raw s endsWith before []

variable {op : Operator} {tokens : List String} {raw s : String} {before after : List Char}

theorem mem_searches_iff : op ∈ searches ↔ op = contains ∨ op = startsWith ∨ op = endsWith := by
  simp [searches]

theorem mem_equalities_iff : op ∈ equalities ↔ op = equals ∨ op = oneOf := by
  simp [equalities]

theorem holdsOfText_ordinal_iff (hop : op ∈ searches) :
    op.HoldsOfText TextMatching.ordinal.fold tokens raw s ↔
      ∃ before after, op.Finds raw s before after := by
  rcases mem_searches_iff.mp hop with rfl | rfl | rfl
  · constructor
    · rintro ⟨before, after, h⟩
      exact ⟨before, after, .contains h.symm⟩
    · rintro ⟨before, after, hf⟩
      cases hf with
      | contains h => exact ⟨before, after, h.symm⟩
  · constructor
    · rintro ⟨after, h⟩
      exact ⟨[], after, .startsWith h.symm⟩
    · rintro ⟨_, after, hf⟩
      cases hf with
      | startsWith h => exact ⟨after, h.symm⟩
  · constructor
    · rintro ⟨before, h⟩
      exact ⟨before, [], .endsWith h.symm⟩
    · rintro ⟨before, _, hf⟩
      cases hf with
      | endsWith h => exact ⟨before, h.symm⟩

/-- An operand found at one end of a text is found there again exactly if it keeps its sigmas. -/
theorem Finds.holdsOfText_iff (h : op.Finds raw s before after) (hop : op ≠ .contains) :
    op.HoldsOfText TextMatching.ignoreCase.fold tokens raw s ↔
      KeepsSigmas before after raw.toList := by
  cases h with
  | contains => exact absurd rfl hop
  | startsWith h =>
    change (Text.lower raw).toList <+: (Text.lower s).toList ↔ _
    rw [Text.toList_lower, Text.toList_lower, h, Text.Case.prefix_lowerFrom_iff]
  | endsWith h =>
    change (Text.lower raw).toList <:+ (Text.lower s).toList ↔ _
    rw [Text.toList_lower, Text.toList_lower, h, Text.Case.suffix_lowerFrom_iff]

theorem Finds.holdsOfText (h : op.Finds raw s before after)
    (hs : KeepsSigmas before after raw.toList) :
    op.HoldsOfText TextMatching.ignoreCase.fold tokens raw s := by
  cases h with
  | contains h =>
    change (Text.lower raw).toList <:+: (Text.lower s).toList
    rw [Text.toList_lower, Text.toList_lower, h]
    exact Text.Case.infix_lowerFrom hs
  | startsWith h => exact (Finds.startsWith h).holdsOfText_iff nofun |>.mpr hs
  | endsWith h => exact (Finds.endsWith h).holdsOfText_iff nofun |>.mpr hs

/-- Equal texts fold to equal texts. -/
theorem holdsOfText_of_ordinal (hop : op ∈ equalities)
    (h : op.HoldsOfText TextMatching.ordinal.fold tokens raw s) (fold : String → String) :
    op.HoldsOfText fold tokens raw s := by
  rcases mem_equalities_iff.mp hop with rfl | rfl
  · exact congrArg fold h
  · obtain ⟨t, ht, hst⟩ := h
    exact ⟨t, ht, congrArg fold hst⟩

end Operator

namespace Mapping

variable {m : Mapping ε} {c : Config} {raw : String} {op : Operator} {e : ε}

/-! The operators on a text field -/

theorem exists_string_of_text {op : TextOp} (h : (m.text c op raw).holds e = true) :
    ∃ s, m.read e = .string s := by
  have h : (m.read e).satisfiesText op (c.textMatching.fold raw) c.textMatching = true := h
  cases hv : m.read e with
  | string s => exact ⟨s, rfl⟩
  | _ => simp [hv, Scalar.satisfiesText, Scalar.text?] at h

theorem exists_string_of_textCondition (hop : op ∈ Operator.equalities ∨ op ∈ Operator.searches)
    (h : (m.textCondition c raw op).holds e = true) : ∃ s, m.read e = .string s := by
  rw [Operator.mem_equalities_iff, Operator.mem_searches_iff] at hop
  rcases hop with (rfl | rfl) | rfl | rfl | rfl
  case inl.inr =>
    simp only [textCondition, textOneOf, Predicate.holds_any, List.any_eq_true, List.mem_map] at h
    obtain ⟨p, ⟨t, -, rfl⟩, hp⟩ := h
    exact exists_string_of_text hp
  all_goals exact exists_string_of_text h

theorem fragment_text (hk : m.kind = .string)
    (hop : op ∈ Operator.equalities ∨ op ∈ Operator.searches) :
    m.fragment c op raw = .ok (m.guarded (m.textCondition c raw op)) := by
  rw [Operator.mem_equalities_iff, Operator.mem_searches_iff] at hop
  rw [fragment_eq, hk]
  rcases hop with (rfl | rfl) | rfl | rfl | rfl <;>
    simp [Kind.allows, Kind.operators, stringOperators, allowedFragment, condition, hk, Except.map]

/-- Whatever the field reads, only a text is equal to a text or holds one. -/
theorem matches_text_iff (hk : m.kind = .string)
    (hop : op ∈ Operator.equalities ∨ op ∈ Operator.searches) :
    m.Matches c raw op e ↔ ∃ s, m.read e = .string s ∧
      op.HoldsOfText c.textMatching.fold (Text.splitList c.listSeparator raw) raw s := by
  unfold Matches
  rw [fragment_text hk hop]
  constructor
  · rintro ⟨p, hp, hh⟩
    cases hp
    rw [holds_guarded, Bool.and_eq_true] at hh
    obtain ⟨s, hs⟩ := exists_string_of_textCondition hop hh.2
    exact ⟨s, hs, (holds_textCondition_iff hs op).mp hh.2⟩
  · rintro ⟨s, hs, hh⟩
    refine ⟨_, rfl, ?_⟩
    rw [holds_guarded, (holds_textCondition_iff hs op).mpr hh, hs]
    simp [Scalar.isNull]

variable (m c) in
/-- What becomes of the matches on a text field when case is ignored. -/
structure CaseLaws : Prop where
  equalities : ∀ raw e, ∀ op ∈ Operator.equalities,
    m.Matches (c.withMatching .ordinal) raw op e → m.Matches (c.withMatching .ignoreCase) raw op e
  finds : ∀ raw e, ∀ op ∈ Operator.searches,
    (m.Matches (c.withMatching .ordinal) raw op e ↔
      ∃ s before after, m.read e = .string s ∧ op.Finds raw s before after)
  searches : ∀ raw e, ∀ op ∈ Operator.searches, ∀ s before after, m.read e = .string s →
    op.Finds raw s before after → KeepsSigmas before after raw.toList →
      m.Matches (c.withMatching .ignoreCase) raw op e
  anchored : ∀ raw e, ∀ op ∈ Operator.searches, op ≠ .contains → ∀ s before after,
    m.read e = .string s → op.Finds raw s before after →
      (m.Matches (c.withMatching .ignoreCase) raw op e ↔ KeepsSigmas before after raw.toList)
  plain : ∀ raw e, 'Σ' ∉ raw.toList → ∀ op ∈ Operator.searches,
    m.Matches (c.withMatching .ordinal) raw op e → m.Matches (c.withMatching .ignoreCase) raw op e
  /-- On either side it is the nearest character that is not passed over that counts: a letter behind
  an apostrophe or a full stop is met as if it adjoined the operand. -/
  words : ∀ raw e, ∀ op ∈ Operator.searches, ∀ s before after, m.read e = .string s →
    op.Finds raw s before after → meetsCased before.reverse = false → meetsCased after = false →
      m.Matches (c.withMatching .ignoreCase) raw op e

theorem matches_ordinal_iff (hk : m.kind = .string) (hop : op ∈ Operator.searches) :
    m.Matches (c.withMatching .ordinal) raw op e ↔
      ∃ s before after, m.read e = .string s ∧ op.Finds raw s before after := by
  rw [matches_text_iff hk (.inr hop)]
  constructor
  · rintro ⟨s, hs, h⟩
    obtain ⟨before, after, hf⟩ := (Operator.holdsOfText_ordinal_iff hop).mp h
    exact ⟨s, before, after, hs, hf⟩
  · rintro ⟨s, before, after, hs, hf⟩
    exact ⟨s, hs, (Operator.holdsOfText_ordinal_iff hop).mpr ⟨before, after, hf⟩⟩

theorem matches_ignoreCase_of_finds {s : String} {before after : List Char}
    (hk : m.kind = .string) (hop : op ∈ Operator.searches) (hs : m.read e = .string s)
    (hf : op.Finds raw s before after) (hkeep : KeepsSigmas before after raw.toList) :
    m.Matches (c.withMatching .ignoreCase) raw op e :=
  (matches_text_iff hk (.inr hop)).mpr ⟨s, hs, hf.holdsOfText hkeep⟩

theorem matches_ignoreCase_iff {s : String} {before after : List Char}
    (hk : m.kind = .string) (hop : op ∈ Operator.searches) (hne : op ≠ .contains)
    (hs : m.read e = .string s) (hf : op.Finds raw s before after) :
    m.Matches (c.withMatching .ignoreCase) raw op e ↔ KeepsSigmas before after raw.toList := by
  constructor
  · intro h
    obtain ⟨s', hs', hh⟩ := (matches_text_iff hk (.inr hop)).mp h
    obtain rfl : s = s' := Scalar.string.inj (hs.symm.trans hs')
    exact (hf.holdsOfText_iff hne).mp hh
  · exact matches_ignoreCase_of_finds hk hop hs hf

/-- Ignoring case never loses a value that equals the operand, and loses one that holds the operand
only where a capital sigma is lowered in two ways. -/
theorem caseLaws (hk : m.kind = .string) (c : Config) : m.CaseLaws c where
  equalities := by
    intro raw e op hop h
    rw [matches_text_iff hk (.inl hop)] at h ⊢
    obtain ⟨s, hs, hh⟩ := h
    exact ⟨s, hs, Operator.holdsOfText_of_ordinal hop hh _⟩
  finds := fun _ _ _ hop => matches_ordinal_iff hk hop
  searches := fun _ _ _ hop _ _ _ hs hf hkeep => matches_ignoreCase_of_finds hk hop hs hf hkeep
  anchored := fun _ _ _ hop hne _ _ _ hs hf => matches_ignoreCase_iff hk hop hne hs hf
  plain := by
    intro raw e hraw op hop h
    obtain ⟨s, before, after, hs, hf⟩ := (matches_ordinal_iff hk hop).mp h
    exact matches_ignoreCase_of_finds hk hop hs hf (Text.Case.keepsSigmas_of_not_mem hraw)
  words := by
    intro raw e op hop s before after hs hf hbefore hafter
    have hkeep : KeepsSigmas before after raw.toList :=
      Text.Case.keepsSigmas_of_setOff hbefore hafter
    exact matches_ignoreCase_of_finds hk hop hs hf hkeep

/-- A field of street names. -/
def street : Mapping String := .ofFunction "street" id false

/-- The operand is a word of the value, and its sigma is final in both. -/
theorem street_found_ignoring_case :
    street.kind = .string ∧
      street.Matches (.withMatching {} .ignoreCase) "ΟΔΟΣ" .contains "Η ΟΔΟΣ ΑΥΤΗ" := by
  have hf : Operator.contains.Finds "ΟΔΟΣ" "Η ΟΔΟΣ ΑΥΤΗ" "Η ".toList " ΑΥΤΗ".toList :=
    .contains (by decide)
  have hlaws : street.CaseLaws {} := caseLaws rfl {}
  exact ⟨rfl, hlaws.words _ _ _ (by decide) _ _ _ rfl hf (by decide +kernel) (by decide +kernel)⟩

/-- The sigma is final in the operand and not in the value, or the other way round. -/
theorem street_lost_ignoring_case :
    street.kind = .string ∧
      street.Matches (.withMatching {} .ordinal) "ΑΣ" .contains "ΑΣΑ" ∧
      ¬ street.Matches (.withMatching {} .ignoreCase) "ΑΣ" .contains "ΑΣΑ" ∧
      street.Matches (.withMatching {} .ordinal) "ΑΣ" .startsWith "ΑΣΑ" ∧
      ¬ street.Matches (.withMatching {} .ignoreCase) "ΑΣ" .startsWith "ΑΣΑ" ∧
      street.Matches (.withMatching {} .ordinal) "Σ" .endsWith "ΑΣ" ∧
      ¬ street.Matches (.withMatching {} .ignoreCase) "Σ" .endsWith "ΑΣ" := by
  refine ⟨rfl, ⟨_, rfl, by decide⟩, ?_, ⟨_, rfl, by decide⟩, ?_, ⟨_, rfl, by decide⟩, ?_⟩
  all_goals
    rintro ⟨p, hp, hh⟩
    cases hp
    revert hh
    decide +kernel

end Mapping

end Sift
