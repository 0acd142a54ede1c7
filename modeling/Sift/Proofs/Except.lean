import Mathlib.Data.List.Forall2

/-!
# Outcomes

When a chain of steps that may fail succeeds, and with which error it fails. A list is read item by
item, up to the first that fails.
-/

namespace Sift

variable {α β γ κ : Type}

theorem map_map_except (x : Except κ α) (f : α → β) (g : β → γ) :
    (x.map f).map g = x.map fun a => g (f a) := by
  cases x <;> rfl

theorem map_eq_ok_iff {x : Except κ α} {f : α → β} {b : β} :
    x.map f = .ok b ↔ ∃ a, x = .ok a ∧ f a = b := by
  cases x <;> simp [Except.map]

theorem bind_eq_ok_iff {x : Except κ α} {f : α → Except κ β} {b : β} :
    x >>= f = .ok b ↔ ∃ a, x = .ok a ∧ f a = .ok b := by
  cases x <;> simp [bind, Except.bind]

theorem map_eq_error_iff {x : Except κ α} {f : α → β} {e : κ} :
    x.map f = .error e ↔ x = .error e := by
  cases x <;> simp [Except.map]

theorem bind_eq_error_iff {x : Except κ α} {f : α → Except κ β} {e : κ} :
    x >>= f = .error e ↔ x = .error e ∨ ∃ a, x = .ok a ∧ f a = .error e := by
  cases x <;> simp [bind, Except.bind]

/-! Lists -/

section
variable {f : α → Except κ β}

theorem mapM_eq_ok_iff {g : α → Option β} (h : ∀ a b, f a = .ok b ↔ g a = some b) (as : List α)
    (bs : List β) : as.mapM f = .ok bs ↔ as.map g = bs.map some := by
  induction as generalizing bs with
  | nil => cases bs <;> simp [pure, Except.pure]
  | cons a as ih =>
    simp only [List.mapM_cons, bind_eq_ok_iff, h, ih, pure, Except.pure, Except.ok.injEq]
    cases bs <;> simp

theorem mapM_eq_ok_iff_forall₂ {R : α → β → Prop} (h : ∀ a b, f a = .ok b ↔ R a b)
    {as : List α} {bs : List β} : as.mapM f = .ok bs ↔ List.Forall₂ R as bs := by
  induction as generalizing bs with
  | nil =>
    rw [List.mapM_nil, List.forall₂_nil_left_iff]
    exact ⟨fun h => (Except.ok.inj h).symm, fun h => h ▸ rfl⟩
  | cons a as ih =>
    simp only [List.mapM_cons, bind_eq_ok_iff, h, ih, List.forall₂_cons_left_iff]
    constructor
    · rintro ⟨b, hb, bs', hbs, he⟩
      exact ⟨b, bs', hb, hbs, (Except.ok.inj he).symm⟩
    · rintro ⟨b, bs', hb, hbs, rfl⟩
      exact ⟨b, hb, bs', hbs, rfl⟩

/-- The error of a list is that of its first item with one. -/
theorem mapM_eq_error_iff {as : List α} {e : κ} :
    as.mapM f = .error e ↔ ∃ before a after, as = before ++ a :: after ∧
      (∀ x ∈ before, ∃ b, f x = .ok b) ∧ f a = .error e := by
  induction as with
  | nil => simp [pure, Except.pure]
  | cons a as ih =>
    rw [List.mapM_cons, bind_eq_error_iff]
    constructor
    · rintro (ha | ⟨b, ha, hrest⟩)
      · exact ⟨[], a, as, rfl, by simp, ha⟩
      · have has : as.mapM f = .error e := by
          rcases bind_eq_error_iff.mp hrest with h | ⟨bs, -, h⟩
          · exact h
          · cases h
        obtain ⟨before, c, after, rfl, hb, hc⟩ := ih.mp has
        exact ⟨a :: before, c, after, rfl, List.forall_mem_cons.mpr ⟨⟨b, ha⟩, hb⟩, hc⟩
    · rintro ⟨before, c, after, hs, hb, hc⟩
      rcases List.cons_eq_append_iff.mp hs with ⟨rfl, ht⟩ | ⟨before', rfl, ht⟩
      · cases ht
        exact .inl hc
      · obtain ⟨⟨b, ha⟩, hb⟩ := List.forall_mem_cons.mp hb
        have has : as.mapM f = .error e := ih.mpr ⟨before', c, after, ht, hb, hc⟩
        exact .inr ⟨b, ha, bind_eq_error_iff.mpr (.inl has)⟩

end

end Sift
