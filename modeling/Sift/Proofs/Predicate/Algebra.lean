import Sift.Proofs.Predicate

/-!
# The algebra of predicates

As trees, predicates are a monoid under conjunction with `always` as its unit: a conjunction joins
the lists of conditions on either side, and only `always` has none to join. Conjunction adds up the
conditions on fields, and negation keeps their number. Negating twice gives the same tree again
unless the tree negates what should not be negated.
-/

namespace Sift.Predicate

variable {ε : Type} {p q r : Predicate ε}

/-- The conditions that a conjunction with the predicate takes over. -/
def conjuncts : Predicate ε → List (Predicate ε)
  | always => []
  | all ps => ps
  | p => [p]

theorem always_and (p : Predicate ε) : always.and p = p := by
  unfold and
  rfl

theorem and_always (p : Predicate ε) : p.and always = p := by
  cases p <;> rfl

theorem and_eq (hp : p ≠ always) (hq : q ≠ always) :
    p.and q = all (p.conjuncts ++ q.conjuncts) := by
  cases p with
  | always => exact absurd rfl hp
  | _ =>
    cases q with
    | always => exact absurd rfl hq
    | _ => rfl

theorem isAlways_iff : p.isAlways = true ↔ p = always := by
  cases p <;> simp [isAlways]

theorem and_ne_always (hp : p ≠ always) (hq : q ≠ always) : p.and q ≠ always := by
  rw [and_eq hp hq]
  exact nofun

theorem and_eq_always_iff : p.and q = always ↔ p = always ∧ q = always := by
  constructor
  · intro h
    by_cases hp : p = always
    · subst hp
      exact ⟨rfl, always_and q ▸ h⟩
    · by_cases hq : q = always
      · subst hq
        exact ⟨and_always p ▸ h, rfl⟩
      · exact absurd h (and_ne_always hp hq)
  · intro h
    rw [h.1, h.2, always_and]

theorem conjuncts_and (p q : Predicate ε) : (p.and q).conjuncts = p.conjuncts ++ q.conjuncts := by
  by_cases hp : p = always
  · subst hp
    rw [always_and]
    rfl
  · by_cases hq : q = always
    · subst hq
      rw [and_always]
      exact (List.append_nil _).symm
    · rw [and_eq hp hq]
      rfl

theorem and_assoc (p q r : Predicate ε) : (p.and q).and r = p.and (q.and r) := by
  by_cases hp : p = always
  · rw [hp, always_and, always_and]
  · by_cases hq : q = always
    · rw [hq, and_always, always_and]
    · by_cases hr : r = always
      · rw [hr, and_always, and_always]
      · rw [and_eq (and_ne_always hp hq) hr, and_eq hp (and_ne_always hq hr), conjuncts_and,
          conjuncts_and, List.append_assoc]

/-- A chain of conjunctions is trivial only if every member of it is. -/
theorem foldl_and_eq_always_iff {ps : List (Predicate ε)} :
    ps.foldl and p = always ↔ p = always ∧ ∀ q ∈ ps, q = always := by
  induction ps generalizing p with
  | nil => simp
  | cons q ps ih =>
    rw [List.foldl_cons, ih, and_eq_always_iff, List.forall_mem_cons]
    exact ⟨fun h => ⟨h.1.1, h.1.2, h.2⟩, fun h => ⟨⟨h.1, h.2.1⟩, h.2.2⟩⟩

/-! Conditions on fields -/

theorem leafCounts_append (ps qs : List (Predicate ε)) :
    leafCounts (ps ++ qs) = leafCounts ps + leafCounts qs := by
  induction ps with
  | nil => simp [leafCounts]
  | cons p ps ih => simp only [List.cons_append, leafCounts, ih, Nat.add_assoc]

theorem leafCounts_conjuncts (p : Predicate ε) : leafCounts p.conjuncts = p.leafCount := by
  cases p <;> simp [conjuncts, leafCounts, leafCount]

theorem leafCount_and (p q : Predicate ε) : (p.and q).leafCount = p.leafCount + q.leafCount := by
  rw [← leafCounts_conjuncts, conjuncts_and, leafCounts_append, leafCounts_conjuncts,
    leafCounts_conjuncts]

theorem leafCount_negate (p : Predicate ε) : p.negate.leafCount = p.leafCount := by
  cases p <;> simp [negate, leafCount]

/-! Negation -/

/-- What a negation should not stand before. -/
def Absorbs (p : Predicate ε) : Prop := p = always ∨ p = never ∨ ∃ q, p = not q

theorem negate_eq (h : ¬ p.Absorbs) : p.negate = not p := by
  cases p with
  | always => exact absurd (.inl rfl) h
  | never => exact absurd (.inr (.inl rfl)) h
  | not q => exact absurd (.inr (.inr ⟨q, rfl⟩)) h
  | _ => rfl

theorem negate_negate (h : ∀ q, p = not q → ¬ q.Absorbs) : p.negate.negate = p := by
  cases p with
  | not q => exact negate_eq (h q rfl)
  | _ => rfl

end Sift.Predicate
