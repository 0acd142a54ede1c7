import Sift.Predicate

/-!
# What composed predicates say

`and` and `negate` reshape the trees that they are given, and still mean conjunction and negation.
The tests of text are equality, prefix, suffix and infix of the characters.
-/

namespace Sift

variable {ε : Type}

namespace Predicate

theorem holds_any (ps : List (Predicate ε)) (e : ε) :
    (any ps).holds e = ps.any (·.holds e) := by
  rw [holds, anyHolds_eq_any]

theorem holds_compare (f : FieldRef ε) (op : CompareOp) (v : Scalar) (e : ε) :
    (compare f op v).holds e = (f.read e).satisfies op v := by
  rw [holds]

theorem holds_within (f : FieldRef ε) (low high : Scalar) (e : ε) :
    (within f low high).holds e = (f.read e).isWithin low high := by
  rw [holds]

theorem holds_and (p q : Predicate ε) (e : ε) :
    (p.and q).holds e = (p.holds e && q.holds e) := by
  unfold and
  split <;> simp [holds, allHold_eq_all]

theorem holds_negate (p : Predicate ε) (e : ε) : p.negate.holds e = !p.holds e := by
  unfold negate
  split <;> simp [holds]

theorem holds_negate_iff (p : Predicate ε) (e : ε) :
    p.negate.holds e = true ↔ ¬ p.holds e = true := by
  simp [holds_negate]

theorem holds_foldl_and (p : Predicate ε) (ps : List (Predicate ε)) (e : ε) :
    (ps.foldl and p).holds e = (p.holds e && ps.all (·.holds e)) := by
  induction ps generalizing p with
  | nil => simp
  | cons q qs ih => simp [ih, holds_and, Bool.and_assoc]

end Predicate

/-! Conditions on values -/

namespace Scalar

theorem satisfies_iff (v : Scalar) (op : CompareOp) (w : Scalar) :
    v.satisfies op w = true ↔ ∃ o, v.compare? w = some o ∧ op.allows o = true := by
  simp [satisfies, Option.any_eq_true]

theorem string_satisfies_eq_iff (s t : String) :
    (string s).satisfies .eq (string t) = true ↔ s = t := by
  simp [satisfies, compare?, CompareOp.allows]

theorem string_satisfies_ne_iff (s t : String) :
    (string s).satisfies .ne (string t) = true ↔ s ≠ t := by
  simp [satisfies, compare?, CompareOp.allows]

end Scalar

namespace Text

theorem occursIn_iff (p cs : List Char) : occursIn p cs = true ↔ p <:+: cs := by
  induction cs with
  | nil => simp [occursIn]
  | cons c cs ih =>
    simp only [occursIn, Bool.or_eq_true, ih, List.isPrefixOf_iff_prefix]
    exact List.infix_cons_iff.symm

end Text

/-- The test by the characters of both texts. -/
def TextOp.Passes : TextOp → String → String → Prop
  | equals, s, operand => s = operand
  | contains, s, operand => operand.toList <:+: s.toList
  | startsWith, s, operand => operand.toList <+: s.toList
  | endsWith, s, operand => operand.toList <:+ s.toList

theorem TextOp.test_iff (op : TextOp) (s operand : String) :
    op.test s operand = true ↔ op.Passes s operand := by
  cases op with
  | equals => exact beq_iff_eq
  | contains => exact Text.occursIn_iff _ _
  | startsWith => exact List.isPrefixOf_iff_prefix
  | endsWith => exact List.isSuffixOf_iff_suffix

end Sift
