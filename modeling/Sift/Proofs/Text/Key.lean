import Sift.Criterion

/-!
# What a normal key does not depend on

Neither blanks around a key nor the case of its ASCII letters make a difference to its normal form.
An ASCII letter counts as a letter in either case, so that a sigma beside it keeps its form.
-/

namespace Sift

namespace Text

theorem sameAscii_iff {s t : String} :
    sameAscii s t = true ↔ s.toList.map Char.toLower = t.toList.map Char.toLower :=
  beq_iff_eq

/-! Blanks -/

theorem dropBlanks_append_left {blanks : List Char} (hb : ∀ c ∈ blanks, isBlank c = true)
    (cs : List Char) : dropBlanks (blanks ++ cs) = dropBlanks cs :=
  List.dropWhile_append_of_pos hb

theorem dropBlanks_of_blank {blanks : List Char} (hb : ∀ c ∈ blanks, isBlank c = true) :
    dropBlanks blanks = [] := by
  have h := dropBlanks_append_left hb []
  rwa [List.append_nil] at h

theorem trimmed_append_left {blanks : List Char} (hb : ∀ c ∈ blanks, isBlank c = true)
    (cs : List Char) : trimmed (blanks ++ cs) = trimmed cs := by
  unfold trimmed
  rw [dropBlanks_append_left hb]

theorem trimmed_append_right {blanks : List Char} (hb : ∀ c ∈ blanks, isBlank c = true)
    (cs : List Char) : trimmed (cs ++ blanks) = trimmed cs := by
  have hr : ∀ c ∈ blanks.reverse, isBlank c = true :=
    fun c hc => hb c (List.mem_reverse.mp hc)
  unfold trimmed
  by_cases h : dropBlanks cs = []
  · -- the whole text is blank
    have hall : dropBlanks (cs ++ blanks) = dropBlanks blanks := by
      unfold dropBlanks at h ⊢
      rw [List.dropWhile_append, h]
      rfl
    rw [hall, dropBlanks_of_blank hb, h]
  · have hstop : dropBlanks (cs ++ blanks) = dropBlanks cs ++ blanks := by
      unfold dropBlanks at h ⊢
      rw [List.dropWhile_append, if_neg (by simpa using h)]
    rw [hstop, List.reverse_append, dropBlanks_append_left hr]

theorem trim_padded {before after : String} (hb : ∀ c ∈ before.toList, isBlank c = true)
    (ha : ∀ c ∈ after.toList, isBlank c = true) (s : String) :
    trim (before ++ s ++ after) = trim s := by
  unfold trim
  rw [String.toList_append, String.toList_append, trimmed_append_right ha,
    trimmed_append_left hb]

/-! ASCII letters -/

theorem toLower_cases (c : Char) :
    c.toLower = c ∨ ∃ n : Fin 26, c = .ofNat (65 + n) ∧ c.toLower = .ofNat (97 + n) := by
  by_cases h : 65 ≤ c.toNat ∧ c.toNat ≤ 90
  · obtain ⟨n, hn⟩ : ∃ n : Fin 26, c.toNat = 65 + n := ⟨⟨c.toNat - 65, by omega⟩, by simp; omega⟩
    have hc : c = .ofNat (65 + n) := by rw [← hn, Char.ofNat_toNat]
    refine .inr ⟨n, hc, ?_⟩
    have hl : ∀ n : Fin 26, (Char.ofNat (65 + n)).toLower = .ofNat (97 + n) := by decide
    rw [hc, hl]
  · refine .inl (dif_neg fun hv => h ?_)
    exact ⟨hv.1, hv.2⟩

/-- A function of characters that agrees on the capitals and the small letters sees no ASCII
case. -/
theorem apply_toLower {α : Type} {f : Char → α}
    (h : ∀ n : Fin 26, f (.ofNat (97 + n)) = f (.ofNat (65 + n))) (c : Char) :
    f c.toLower = f c := by
  rcases toLower_cases c with hc | ⟨n, hc, hl⟩
  · rw [hc]
  · rw [hl, hc, h]

theorem isBlank_toLower (c : Char) : isBlank c.toLower = isBlank c := apply_toLower (by decide) c

theorem dropBlanks_map_toLower (cs : List Char) :
    dropBlanks (cs.map Char.toLower) = (dropBlanks cs).map Char.toLower := by
  have h : isBlank ∘ Char.toLower = isBlank := funext isBlank_toLower
  unfold dropBlanks
  rw [List.dropWhile_map, h]

theorem trimmed_map_toLower (cs : List Char) :
    trimmed (cs.map Char.toLower) = (trimmed cs).map Char.toLower := by
  simp only [trimmed, dropBlanks_map_toLower, ← List.map_reverse]

namespace Case

theorem isCased_toLower (c : Char) : isCased c.toLower = isCased c :=
  apply_toLower (by decide +kernel) c

theorem isIgnorable_toLower (c : Char) : isIgnorable c.toLower = isIgnorable c :=
  apply_toLower (by decide +kernel) c

theorem lowerChar_toLower (c : Char) : lowerChar c.toLower = lowerChar c :=
  apply_toLower (by decide +kernel) c

theorem toLower_eq_sigma_iff (c : Char) : c.toLower = 'Σ' ↔ c = 'Σ' :=
  decide_eq_decide.mp (apply_toLower (f := fun c => decide (c = 'Σ')) (by decide) c)

theorem meetsCased_map_toLower (cs : List Char) :
    meetsCased (cs.map Char.toLower) = meetsCased cs := by
  have hi : isIgnorable ∘ Char.toLower = isIgnorable := funext isIgnorable_toLower
  unfold meetsCased
  rw [List.dropWhile_map, hi, List.head?_map, Option.any_map]
  simp only [isCased_toLower]

theorem lowerSigma_map_toLower (before after : List Char) :
    lowerSigma (before.map Char.toLower) (after.map Char.toLower) = lowerSigma before after := by
  unfold lowerSigma
  rw [meetsCased_map_toLower, meetsCased_map_toLower]

theorem lowerFrom_map_toLower (before cs : List Char) :
    lowerFrom (before.map Char.toLower) (cs.map Char.toLower) = lowerFrom before cs := by
  induction cs generalizing before with
  | nil => rfl
  | cons c cs ih =>
    have hrest := ih (c :: before)
    rw [List.map_cons] at hrest
    simp only [List.map_cons, lowerFrom, toLower_eq_sigma_iff, lowerSigma_map_toLower,
      lowerChar_toLower, hrest]

end Case

end Text

/-! Keys -/

theorem normalKey_padded {before after : String} (hb : ∀ c ∈ before.toList, Text.isBlank c = true)
    (ha : ∀ c ∈ after.toList, Text.isBlank c = true) (s : String) :
    normalKey (before ++ s ++ after) = normalKey s := by
  unfold normalKey
  rw [Text.trim_padded hb ha]

theorem normalKey_eq_of_sameAscii {s t : String} (h : Text.sameAscii s t = true) :
    normalKey s = normalKey t := by
  have small (u : String) : normalKey u =
      .ofList (Text.Case.lowerFrom [] (Text.trimmed (u.toList.map Char.toLower))) := by
    have hl := Text.Case.lowerFrom_map_toLower [] (Text.trimmed u.toList)
    unfold normalKey Text.lower Text.trim
    rw [String.toList_ofList, Text.trimmed_map_toLower, ← hl]
    rfl
  rw [small, small, Text.sameAscii_iff.mp h]

end Sift
