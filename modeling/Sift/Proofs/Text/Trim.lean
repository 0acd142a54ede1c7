import Mathlib.Data.List.TakeWhile
import Sift.Proofs.Text.Key

/-!
# Trimmed texts

A text is trimmed if it neither begins nor ends with a blank. Trimming leaves such a text alone, and
makes every text one without adding characters to it.
-/

namespace Sift.Text

/-- Neither the first nor the last character is blank. -/
structure IsTrimmed (cs : List Char) : Prop where
  head : ∀ c ∈ cs.head?, isBlank c = false
  last : ∀ c ∈ cs.getLast?, isBlank c = false

variable {cs : List Char}

theorem dropBlanks_eq_self (h : ∀ c ∈ cs.head?, isBlank c = false) : dropBlanks cs = cs := by
  cases cs with
  | nil => rfl
  | cons c cs => exact List.dropWhile_cons_of_neg (by simp [h c rfl])

theorem head_dropBlanks (cs : List Char) : ∀ c ∈ (dropBlanks cs).head?, isBlank c = false := by
  intro c hc
  have h := List.head?_dropWhile_not isBlank cs
  unfold dropBlanks at hc
  rw [Option.mem_def.mp hc] at h
  simpa using h

theorem dropBlanks_suffix (cs : List Char) : dropBlanks cs <:+ cs := List.dropWhile_suffix isBlank

theorem trimmed_sublist (cs : List Char) : (trimmed cs).Sublist cs := by
  have hback : (dropBlanks (dropBlanks cs).reverse).Sublist (dropBlanks cs).reverse :=
    (dropBlanks_suffix _).sublist
  have hfront : (dropBlanks cs).Sublist cs := (dropBlanks_suffix cs).sublist
  unfold trimmed
  exact (List.reverse_sublist.mp (by simpa using hback)).trans hfront

theorem IsTrimmed.trimmed_eq (h : IsTrimmed cs) : trimmed cs = cs := by
  have hback : dropBlanks cs.reverse = cs.reverse := by
    apply dropBlanks_eq_self
    rw [List.head?_reverse]
    exact h.last
  unfold trimmed
  rw [dropBlanks_eq_self h.head, hback, List.reverse_reverse]

theorem isTrimmed_trimmed (cs : List Char) : IsTrimmed (trimmed cs) := by
  unfold trimmed
  constructor
  · intro c hc
    -- the first character is that of the text without the blanks before it
    obtain ⟨back, hb⟩ := dropBlanks_suffix (dropBlanks cs).reverse
    have hfront : (dropBlanks (dropBlanks cs).reverse).reverse ++ back.reverse = dropBlanks cs := by
      rw [← List.reverse_append, hb, List.reverse_reverse]
    apply head_dropBlanks cs
    rw [← hfront, List.head?_append, Option.mem_def.mp hc]
    rfl
  · intro c hc
    rw [List.getLast?_reverse] at hc
    exact head_dropBlanks _ c hc

/-! Texts without blanks -/

theorem isBlank_of_isDigit {c : Char} (hc : c.isDigit = true) : isBlank c = false := by
  have hn : 48 ≤ c.toNat ∧ c.toNat ≤ 57 := by
    simpa [Char.isDigit, UInt32.le_iff_toNat_le] using hc
  simp only [isBlank, Bool.or_eq_false_iff, Bool.and_eq_false_iff, decide_eq_false_iff_not,
    beq_eq_false_iff_ne]
  omega

def IsSolid (cs : List Char) : Prop := ∀ c ∈ cs, isBlank c = false

@[simp] theorem isSolid_nil : IsSolid [] := nofun

@[simp] theorem isSolid_cons {c : Char} : IsSolid (c :: cs) ↔ isBlank c = false ∧ IsSolid cs :=
  List.forall_mem_cons

@[simp] theorem isSolid_append {ds : List Char} : IsSolid (cs ++ ds) ↔ IsSolid cs ∧ IsSolid ds :=
  List.forall_mem_append

theorem IsSolid.isTrimmed (h : IsSolid cs) : IsTrimmed cs :=
  ⟨fun c hc => h c (List.mem_of_mem_head? hc), fun c hc => h c (List.mem_of_mem_getLast? hc)⟩

theorem IsSolid.trim_ofList (h : IsSolid cs) : trim (.ofList cs) = .ofList cs := by
  rw [trim, String.toList_ofList, h.isTrimmed.trimmed_eq]

end Sift.Text
