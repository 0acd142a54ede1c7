import Mathlib.Data.List.Basic
import Sift.Text.Case

/-!
# The small form of a stretch of a text

The small form of a text is made of those of its stretches, each of them lowered between what stands
around it. The surroundings count for the capital sigmas of the stretch and for nothing else, and
they never change its length. So a text and its stretch agree on the small form of the stretch
exactly if every capital sigma ends a word in both of them or in neither.
-/

namespace Sift.Text

namespace Case

/-- The small form of a stretch; `before` holds what precedes it, nearest first, and `after` what
follows it. -/
def lowerWithin (before after : List Char) : List Char → List Char
  | [] => []
  | c :: cs =>
    (if c = 'Σ' then [lowerSigma before (cs ++ after)] else lowerChar c) ++
      lowerWithin (c :: before) after cs

/-- Between these surroundings every capital sigma has the small form that it has without them. -/
def KeepsSigmas (before after cs : List Char) : Prop :=
  ∀ xs ys, cs = xs ++ 'Σ' :: ys →
    lowerSigma (before ++ xs).reverse (ys ++ after) = lowerSigma xs.reverse ys

variable {before after before' after' cs : List Char}

theorem lowerFrom_append (before cs after : List Char) :
    lowerFrom before (cs ++ after) =
      lowerWithin before after cs ++ lowerFrom (cs.reverse ++ before) after := by
  induction cs generalizing before with
  | nil => rfl
  | cons c cs ih =>
    rw [List.cons_append, lowerFrom, lowerWithin, ih, List.append_assoc, List.reverse_cons,
      List.append_assoc, List.singleton_append]

theorem lowerWithin_nil_right (before cs : List Char) :
    lowerWithin before [] cs = lowerFrom before cs := by
  have h := lowerFrom_append before cs []
  rw [List.append_nil, lowerFrom, List.append_nil] at h
  exact h.symm

theorem length_lowerWithin :
    (lowerWithin before after cs).length = (lowerWithin before' after' cs).length := by
  induction cs generalizing before before' with
  | nil => rfl
  | cons c cs ih =>
    rw [lowerWithin, lowerWithin, List.length_append, List.length_append,
      @ih (c :: before) (c :: before')]
    split <;> rfl

theorem lowerWithin_cons_eq_iff {c : Char} :
    lowerWithin before after (c :: cs) = lowerWithin before' after' (c :: cs) ↔
      (c = 'Σ' → lowerSigma before (cs ++ after) = lowerSigma before' (cs ++ after')) ∧
        lowerWithin (c :: before) after cs = lowerWithin (c :: before') after' cs := by
  rw [lowerWithin, lowerWithin]
  by_cases hc : c = 'Σ'
  · simp [hc]
  · simp [hc]

/-- Two surroundings make the same of a stretch exactly if they make the same of its sigmas. -/
theorem lowerWithin_eq_iff :
    lowerWithin before after cs = lowerWithin before' after' cs ↔
      ∀ xs ys, cs = xs ++ 'Σ' :: ys →
        lowerSigma (xs.reverse ++ before) (ys ++ after) =
          lowerSigma (xs.reverse ++ before') (ys ++ after') := by
  induction cs generalizing before before' with
  | nil => simp [lowerWithin]
  | cons c cs ih =>
    rw [lowerWithin_cons_eq_iff, ih]
    constructor
    · rintro ⟨hc, hcs⟩ xs ys hxs
      cases xs with
      | nil =>
        obtain ⟨rfl, rfl⟩ := List.cons_eq_cons.mp hxs
        exact hc rfl
      | cons x xs =>
        obtain ⟨rfl, rfl⟩ := List.cons_eq_cons.mp hxs
        simpa using hcs xs ys rfl
    · intro h
      constructor
      · rintro rfl
        exact h [] cs rfl
      · rintro xs ys rfl
        simpa using h (c :: xs) ys rfl

theorem keepsSigmas_iff :
    KeepsSigmas before after cs ↔ lowerWithin before.reverse after cs = lowerFrom [] cs := by
  rw [← lowerWithin_nil_right, lowerWithin_eq_iff]
  simp [KeepsSigmas]

theorem keepsSigmas_of_not_mem (h : 'Σ' ∉ cs) : KeepsSigmas before after cs := by
  rintro xs ys rfl
  simp at h

theorem meetsCased_append (h : meetsCased after = false) (cs : List Char) :
    meetsCased (cs ++ after) = meetsCased cs := by
  unfold meetsCased at h ⊢
  rw [List.dropWhile_append]
  cases hd : cs.dropWhile isIgnorable with
  | nil => simpa using h
  | cons c ds => simp

/-- A stretch keeps its sigmas if on neither side the nearest character that is not passed over is a
letter with case. -/
theorem keepsSigmas_of_setOff (hb : meetsCased before.reverse = false)
    (ha : meetsCased after = false) : KeepsSigmas before after cs := by
  intro xs ys _
  unfold lowerSigma
  rw [List.reverse_append, meetsCased_append hb, meetsCased_append ha]

/-! Stretches of lowered texts -/

theorem lowerFrom_stretch (before cs after : List Char) :
    ∃ front back, lowerFrom [] (before ++ cs ++ after) =
      front ++ lowerWithin before.reverse after cs ++ back := by
  refine ⟨lowerWithin [] (cs ++ after) before, lowerFrom (cs.reverse ++ before.reverse) after, ?_⟩
  rw [List.append_assoc, lowerFrom_append, List.append_nil, lowerFrom_append, List.append_assoc]

theorem infix_lowerFrom (h : KeepsSigmas before after cs) :
    lowerFrom [] cs <:+: lowerFrom [] (before ++ cs ++ after) := by
  obtain ⟨front, back, hs⟩ := lowerFrom_stretch before cs after
  rw [keepsSigmas_iff.mp h] at hs
  exact ⟨front, back, hs.symm⟩

theorem prefix_lowerFrom_iff :
    lowerFrom [] cs <+: lowerFrom [] (cs ++ after) ↔ KeepsSigmas [] after cs := by
  have hlen : (lowerWithin [] after cs).length = (lowerWithin [] [] cs).length :=
    length_lowerWithin
  rw [keepsSigmas_iff, lowerFrom_append, List.reverse_nil]
  rw [lowerWithin_nil_right] at hlen
  constructor
  · rintro ⟨rest, h⟩
    exact (List.append_inj h hlen.symm).1.symm
  · intro h
    exact ⟨_, by rw [h]⟩

theorem suffix_lowerFrom_iff :
    lowerFrom [] cs <:+ lowerFrom [] (before ++ cs) ↔ KeepsSigmas before [] cs := by
  have hlen : (lowerWithin before.reverse [] cs).length = (lowerWithin [] [] cs).length :=
    length_lowerWithin
  rw [lowerWithin_nil_right, lowerWithin_nil_right] at hlen
  rw [keepsSigmas_iff, lowerFrom_append, List.append_nil, lowerWithin_nil_right]
  constructor
  · rintro ⟨rest, h⟩
    exact (List.append_inj' h hlen.symm).2.symm
  · intro h
    exact ⟨_, by rw [h]⟩

end Case

theorem toList_lower (s : String) : (lower s).toList = Case.lowerFrom [] s.toList :=
  String.toList_ofList

end Sift.Text
