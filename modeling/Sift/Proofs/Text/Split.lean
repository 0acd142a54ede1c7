import Mathlib.Data.List.TakeWhile
import Sift.Proofs.Text.Trim
import Sift.Text.Split

/-!
# Cutting a text at a separator

Cutting and joining undo each other: the pieces between the separators of a text hold none of them,
and joined by the separator they are the text again. No other list of pieces does that, so the
tokens of an operand are the pieces of its one cut, trimmed. A separator between two texts keeps
their tokens apart, and tokens that are joined by it are found again.
-/

namespace Sift.Text

/-- The stretches between the separators of a text. -/
structure IsCut (sep : Char) (s : String) (pieces : List String) : Prop where
  ne_nil : pieces ≠ []
  free : ∀ p ∈ pieces, sep ∉ p.toList
  joined : (String.singleton sep).intercalate pieces = s

theorem not_mem_of_mem_splitOn {sep : Char} {cs piece : List Char} (h : piece ∈ cs.splitOn sep) :
    sep ∉ piece := by
  induction cs generalizing piece with
  | nil => simp_all
  | cons c cs ih =>
    rw [List.splitOn_cons_eq_if_modifyHead] at h
    split at h
    · rcases List.mem_cons.mp h with rfl | h
      · exact List.not_mem_nil
      · exact ih h
    · rename_i hc
      cases hs : cs.splitOn sep with
      | nil => simp [hs] at h
      | cons first rest =>
        rw [hs] at h ih
        rcases List.mem_cons.mp h with rfl | h
        · intro hm
          rcases List.mem_cons.mp hm with rfl | hm
          · exact hc (beq_self_eq_true _)
          · exact ih List.mem_cons_self hm
        · exact ih (List.mem_cons_of_mem first h)

theorem isCut_splitOn (sep : Char) (s : String) :
    IsCut sep s ((s.toList.splitOn sep).map .ofList) where
  ne_nil := by simp
  free := by
    intro p hp
    obtain ⟨piece, hm, rfl⟩ := List.mem_map.mp hp
    rw [String.toList_ofList]
    exact not_mem_of_mem_splitOn hm
  joined := by
    apply String.toList_inj.mp
    rw [String.toList_intercalate, List.map_map]
    simp [Function.comp_def, List.intercalate_splitOn]

theorem IsCut.splitOn_eq {sep : Char} {s : String} {pieces : List String}
    (h : IsCut sep s pieces) : s.toList.splitOn sep = pieces.map (·.toList) := by
  have hs : s.toList = [sep].intercalate (pieces.map (·.toList)) := by
    rw [← h.joined, String.toList_intercalate]
    simp
  rw [hs]
  apply List.splitOn_intercalate
  · intro piece hp
    obtain ⟨p, hm, rfl⟩ := List.mem_map.mp hp
    exact h.free p hm
  · simpa using h.ne_nil

theorem splitRange_eq_iff {sep : Char} {s : String} {tokens : List String} :
    splitRange sep s = tokens ↔ ∃ pieces, IsCut sep s pieces ∧ pieces.map trim = tokens := by
  constructor
  · rintro rfl
    refine ⟨_, isCut_splitOn sep s, ?_⟩
    simp [splitRange, trim, Function.comp_def]
  · rintro ⟨pieces, hc, rfl⟩
    rw [splitRange, hc.splitOn_eq, List.map_map]
    rfl

/-! Blank texts -/

theorem trim_eq_empty_iff {s : String} :
    trim s = "" ↔ ∀ c ∈ s.toList, isBlank c = true := by
  constructor
  · intro h
    have ht : trimmed s.toList = [] := by
      have hl := congrArg String.toList h
      rwa [trim, String.toList_ofList] at hl
    have hback : dropBlanks (dropBlanks s.toList).reverse = [] := List.reverse_eq_nil_iff.mp ht
    have hrest : ∀ c ∈ dropBlanks s.toList, isBlank c = true := by
      intro c hc
      exact List.dropWhile_eq_nil_iff.mp hback c (List.mem_reverse.mpr hc)
    intro c hc
    rw [← List.takeWhile_append_dropWhile (p := isBlank) (l := s.toList)] at hc
    rcases List.mem_append.mp hc with hc | hc
    · exact List.mem_takeWhile_imp hc
    · exact hrest c hc
  · intro h
    unfold trim trimmed
    rw [dropBlanks_of_blank h]
    rfl

/-- A blank text is one token, unless blanks separate. -/
theorem splitRange_of_blank {sep : Char} (hsep : isBlank sep = false) {s : String}
    (h : trim s = "") : splitRange sep s = [""] := by
  have hfree : sep ∉ s.toList := by
    intro hm
    rw [trim_eq_empty_iff.mp h sep hm] at hsep
    cases hsep
  have hcut : IsCut sep s [s] := by
    refine ⟨List.cons_ne_nil _ _, ?_, by simp⟩
    intro p hp
    rwa [List.mem_singleton.mp hp]
  exact splitRange_eq_iff.mpr ⟨_, hcut, by rw [List.map_singleton, h]⟩

variable {sep : Char} {s t : String}

/-! Joined texts -/

theorem splitRange_append (sep : Char) (a b : String) :
    splitRange sep (a ++ String.singleton sep ++ b) = splitRange sep a ++ splitRange sep b := by
  have hcut : (a ++ String.singleton sep ++ b).toList.splitOn sep =
      a.toList.splitOn sep ++ b.toList.splitOn sep := by
    simp [List.splitOn_append_cons_self]
  rw [splitRange, hcut, List.map_append]
  rfl

theorem splitList_append (sep : Char) (a b : String) :
    splitList sep (a ++ String.singleton sep ++ b) = splitList sep a ++ splitList sep b := by
  rw [splitList, splitRange_append, List.filter_append]
  rfl

/-! The number of tokens -/

theorem length_splitOn (sep : Char) (cs : List Char) :
    (cs.splitOn sep).length = cs.count sep + 1 := by
  induction cs with
  | nil => rfl
  | cons c cs ih =>
    rw [List.splitOn_cons_eq_if_modifyHead]
    split
    · rename_i hc
      rw [List.length_cons, ih, eq_of_beq hc, List.count_cons_self]
    · rename_i hc
      rw [List.length_modifyHead, ih, List.count_cons_of_ne (by simpa using hc)]

theorem length_splitRange (sep : Char) (s : String) :
    (splitRange sep s).length = s.toList.count sep + 1 := by
  rw [splitRange, List.length_map, length_splitOn]

/-! One token -/

variable (sep t) in
/-- A text that is a token at a separator: neither holds it nor begins or ends with a blank. -/
structure IsToken : Prop where
  free : sep ∉ t.toList
  isTrimmed : IsTrimmed t.toList

theorem isToken_of_mem_splitRange (h : t ∈ splitRange sep s) : IsToken sep t := by
  obtain ⟨piece, hp, rfl⟩ := List.mem_map.mp h
  constructor
  · rw [String.toList_ofList]
    intro hm
    exact not_mem_of_mem_splitOn hp ((trimmed_sublist piece).subset hm)
  · rw [String.toList_ofList]
    exact isTrimmed_trimmed piece

theorem mem_splitList_iff : t ∈ splitList sep s ↔ t ∈ splitRange sep s ∧ t ≠ "" := by
  simp [splitList]

/-! Joined tokens -/

theorem IsToken.trim_eq (h : IsToken sep t) : trim t = t := by
  rw [trim, h.isTrimmed.trimmed_eq, String.ofList_toList]

theorem splitRange_intercalate {tokens : List String} (hne : tokens ≠ [])
    (h : ∀ t ∈ tokens, IsToken sep t) :
    splitRange sep ((String.singleton sep).intercalate tokens) = tokens := by
  apply splitRange_eq_iff.mpr
  refine ⟨tokens, ⟨hne, fun t ht => (h t ht).free, rfl⟩, ?_⟩
  calc tokens.map trim
      _ = tokens.map id := List.map_congr_left fun t ht => (h t ht).trim_eq
      _ = tokens := List.map_id tokens

theorem splitList_intercalate {tokens : List String}
    (h : ∀ t ∈ tokens, t ≠ "" ∧ IsToken sep t) :
    splitList sep ((String.singleton sep).intercalate tokens) = tokens := by
  by_cases hne : tokens = []
  · subst hne
    rfl
  · rw [splitList, splitRange_intercalate hne fun t ht => (h t ht).2]
    apply List.filter_eq_self.mpr
    intro t ht
    exact decide_eq_true (h t ht).1

end Sift.Text
