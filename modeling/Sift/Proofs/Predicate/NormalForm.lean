import Mathlib.Logic.Relation
import Sift.Proofs.Predicate.Algebra

/-!
# The normal form of predicates

In normal form conjunctions are flat and have at least two members, `always` stands for nothing but
the whole predicate, and negations stand where they cannot be absorbed. Conjunction and negation of
predicates in normal form are in normal form.
-/

namespace Sift.Predicate

variable {ε : Type} {p q t : Predicate ε} {ps : List (Predicate ε)}

/-- The trees directly below the root. -/
def parts : Predicate ε → List (Predicate ε)
  | all ps => ps
  | any ps => ps
  | not p => [p]
  | _ => []

/-- The first tree is the second or stands somewhere in it. -/
def OccursIn : Predicate ε → Predicate ε → Prop := Relation.ReflTransGen fun t p => t ∈ p.parts

theorem occursIn_self (p : Predicate ε) : p.OccursIn p := .refl

theorem occursIn_iff : q.OccursIn p ↔ q = p ∨ ∃ t ∈ p.parts, q.OccursIn t := by
  constructor
  · intro h
    rcases Relation.ReflTransGen.cases_tail h with he | ⟨t, hq, ht⟩
    · exact .inl he.symm
    · exact .inr ⟨t, ht, hq⟩
  · intro h
    rcases h with rfl | ⟨t, ht, hq⟩
    · exact occursIn_self q
    · exact hq.tail ht

variable (p) in
/-- No negation in the tree could be absorbed. -/
def NegatesPlainly : Prop :=
  ∀ q, (not q).OccursIn p → q ≠ always ∧ q ≠ never ∧ ∀ t, q ≠ not t

variable (p) in
structure IsNormal : Prop where
  two_members : ∀ ps, (all ps).OccursIn p → 2 ≤ ps.length
  flat : ∀ ps qs, (all ps).OccursIn p → all qs ∉ ps
  always_at_root : ∀ q : Predicate ε, q.OccursIn p → always ∉ q.parts
  negatesPlainly : p.NegatesPlainly

theorem NegatesPlainly.negate_negate (h : p.NegatesPlainly) : p.negate.negate = p := by
  apply Predicate.negate_negate
  intro q hq ha
  have hplain := h q (hq ▸ occursIn_self p)
  rcases ha with ha | ha | ⟨t, ha⟩
  · exact hplain.1 ha
  · exact hplain.2.1 ha
  · exact hplain.2.2 t ha

/-! The rules for one node -/

variable (p) in
/-- What normal form asks of the root and the trees directly below it. -/
structure IsNormalNode : Prop where
  members : ∀ ps, p = all ps → 2 ≤ ps.length ∧ ∀ qs, all qs ∉ ps
  parts : always ∉ p.parts
  negation : ∀ q, p = not q → ¬ q.Absorbs

theorem isNormal_iff_forall :
    p.IsNormal ↔ ∀ q : Predicate ε, q.OccursIn p → q.IsNormalNode := by
  constructor
  · intro h q hq
    refine ⟨?_, h.always_at_root q hq, ?_⟩
    · intro ps he
      subst he
      exact ⟨h.two_members ps hq, fun qs => h.flat ps qs hq⟩
    · intro t he ha
      subst he
      obtain ⟨h₁, h₂, h₃⟩ := h.negatesPlainly t hq
      rcases ha with ha | ha | ⟨u, ha⟩
      · exact h₁ ha
      · exact h₂ ha
      · exact h₃ u ha
  · intro h
    refine ⟨?_, ?_, ?_, ?_⟩
    · intro ps hps
      exact ((h _ hps).members ps rfl).1
    · intro ps qs hps
      exact ((h _ hps).members ps rfl).2 qs
    · intro q hq
      exact (h q hq).parts
    · intro q hq
      have ha := (h _ hq).negation q rfl
      exact ⟨fun he => ha (.inl he), fun he => ha (.inr (.inl he)),
        fun t he => ha (.inr (.inr ⟨t, he⟩))⟩

/-- A tree is in normal form if its root and the trees below it are. -/
theorem isNormal_iff : p.IsNormal ↔ p.IsNormalNode ∧ ∀ t ∈ p.parts, t.IsNormal := by
  constructor
  · intro h
    have hall := isNormal_iff_forall.mp h
    refine ⟨hall p (occursIn_self p), ?_⟩
    intro t ht
    apply isNormal_iff_forall.mpr
    intro q hq
    exact hall q (hq.tail ht)
  · intro h
    apply isNormal_iff_forall.mpr
    intro q hq
    rcases occursIn_iff.mp hq with rfl | ⟨t, ht, hqt⟩
    · exact h.1
    · exact isNormal_iff_forall.mp (h.2 t ht) q hqt

/-! The forms of trees -/

theorem isNormal_of_leaf (hp : p.parts = []) (hall : ∀ ps, p ≠ all ps) : p.IsNormal := by
  apply isNormal_iff.mpr
  refine ⟨⟨fun ps he => absurd he (hall ps), by simp [hp], ?_⟩, by simp [hp]⟩
  intro q he
  rw [he] at hp
  cases hp

theorem isNormal_always : (always : Predicate ε).IsNormal := isNormal_of_leaf rfl (by simp)

theorem isNormal_any (h : ∀ p ∈ ps, p.IsNormal ∧ p ≠ always) : (any ps).IsNormal := by
  apply isNormal_iff.mpr
  refine ⟨⟨by simp, fun ha => (h _ ha).2 rfl, by simp⟩, ?_⟩
  intro t ht
  exact (h t ht).1

theorem isNormal_not (h : p.IsNormal) (ha : ¬ p.Absorbs) : (not p).IsNormal := by
  apply isNormal_iff.mpr
  refine ⟨⟨by simp, ?_, ?_⟩, ?_⟩
  · intro hm
    exact ha (.inl (List.mem_singleton.mp hm).symm)
  · intro q he
    cases he
    exact ha
  · intro t ht
    rwa [List.mem_singleton.mp ht]

variable (p) in
/-- A predicate that can be a member of a conjunction. -/
structure IsMember : Prop where
  isNormal : p.IsNormal
  ne_always : p ≠ always
  ne_all : ∀ ps, p ≠ all ps

theorem isNormal_all (hlen : 2 ≤ ps.length) (h : ∀ p ∈ ps, p.IsMember) : (all ps).IsNormal := by
  apply isNormal_iff.mpr
  refine ⟨⟨?_, fun ha => (h _ ha).ne_always rfl, by simp⟩, fun t ht => (h t ht).isNormal⟩
  intro qs he
  cases he
  exact ⟨hlen, fun qs hq => (h _ hq).ne_all qs rfl⟩

theorem IsNormal.isMember_of_mem_all (h : (all ps).IsNormal) : ∀ p ∈ ps, p.IsMember := by
  have hn := isNormal_iff.mp h
  intro p hp
  refine ⟨hn.2 p hp, ?_, ?_⟩
  · intro he
    exact hn.1.parts (he ▸ hp)
  · intro qs he
    exact (hn.1.members ps rfl).2 qs (he ▸ hp)

/-! Conjunction and negation -/

theorem IsNormal.isMember_of_mem_conjuncts (h : p.IsNormal) : ∀ q ∈ p.conjuncts, q.IsMember := by
  cases p with
  | always => exact nofun
  | all ps => exact h.isMember_of_mem_all
  | _ =>
    intro q hq
    rw [List.mem_singleton.mp hq]
    exact ⟨h, by simp, by simp⟩

theorem IsNormal.conjuncts_ne_nil (h : p.IsNormal) (hp : p ≠ always) : 1 ≤ p.conjuncts.length := by
  cases p with
  | always => exact absurd rfl hp
  | all ps => exact Nat.le_of_succ_le (h.two_members ps (occursIn_self _))
  | _ => exact Nat.le_refl 1

theorem IsNormal.and (hp : p.IsNormal) (hq : q.IsNormal) : (p.and q).IsNormal := by
  by_cases hpa : p = always
  · rwa [hpa, always_and]
  · by_cases hqa : q = always
    · rwa [hqa, and_always]
    · rw [and_eq hpa hqa]
      apply isNormal_all
      · have h₁ := hp.conjuncts_ne_nil hpa
        have h₂ := hq.conjuncts_ne_nil hqa
        rw [List.length_append]
        omega
      · intro t ht
        rcases List.mem_append.mp ht with ht | ht
        · exact hp.isMember_of_mem_conjuncts t ht
        · exact hq.isMember_of_mem_conjuncts t ht

theorem IsNormal.foldl_and (hp : p.IsNormal) (h : ∀ q ∈ ps, q.IsNormal) :
    (ps.foldl Predicate.and p).IsNormal := by
  induction ps generalizing p with
  | nil => exact hp
  | cons q ps ih =>
    rw [List.forall_mem_cons] at h
    exact ih (hp.and h.1) h.2

theorem IsNormal.negate (h : p.IsNormal) : p.negate.IsNormal := by
  by_cases ha : p.Absorbs
  · rcases ha with rfl | rfl | ⟨q, rfl⟩
    · exact isNormal_of_leaf rfl (by simp [Predicate.negate])
    · exact isNormal_always
    · exact (isNormal_iff.mp h).2 q List.mem_cons_self
  · rw [negate_eq ha]
    exact isNormal_not h ha

end Sift.Predicate
