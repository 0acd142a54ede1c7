import Sift.Proofs.Meaning.Laws

/-!
# Negated sets and ranges

Of a number a negated set says that it differs from every token, and a negated range that it lies
below the one end or above the other. What is no number compares with nothing, so that no comparison
holds of it. The negations of a set and of a range are not comparisons, and they do.
-/

namespace Sift

open Sift.Number

variable {ε : Type}

namespace Scalar

theorem compare?_of_isNaN {v : Scalar} (hv : v.isNaN = true) (w : Scalar) :
    v.compare? w = none := by
  cases v
  case float32 x | float64 x =>
    simp only [isNaN] at hv
    cases w <;> simp [compare?, Binary.compareNumbers, hv]
  all_goals cases hv

theorem not_standsTo_of_isNaN {v : Scalar} (hv : v.isNaN = true) (k : Kind) (raw : String)
    (wanted : Ordering → Prop) : ¬ v.StandsTo k raw wanted := by
  rintro ⟨w, o, -, ho, -⟩
  rw [compare?_of_isNaN hv] at ho
  cases ho

theorem not_string_of_isNaN {v : Scalar} {k : Kind} (hv : v.isNaN = true)
    (hk : v.kind? = some k) : k ≠ .string := by
  rintro rfl
  obtain ⟨s, rfl⟩ := eq_string_of_kind hk
  cases hv

end Scalar

namespace Mapping

variable {m : Mapping ε} {c : Config} {raw : String} {op : Operator} {e : ε}

theorem allows_lessThan_iff (k : Kind) :
    k.allows .lessThan = true ↔ k.isNumeric = true ∨ k.isTemporal = true := by
  cases k <;> decide

/-! What is no number -/

section NotNumber

variable (hv : (m.read e).kind? = some m.kind) (hn : (m.read e).isNaN = true)
include hv hn

theorem matches_iff_of_isNaN :
    m.Matches c raw op e ↔
      m.Compiles c raw op ∧ op.HoldsOfOrdered c m.kind raw (m.read e) := by
  rw [matches_iff_holdsOf (.inl hv),
    Operator.holdsOf_eq_holdsOfOrdered hv (Scalar.not_string_of_isNaN hn hv)]

theorem not_matches_of_isNaN (hop : op.toClass = .comparison) : ¬ m.Matches c raw op e := by
  rw [matches_iff_of_isNaN hv hn]
  rintro ⟨-, h⟩
  cases op <;> cases hop <;> exact Scalar.not_standsTo_of_isNaN hn _ _ _ h

theorem matches_noneOf_of_isNaN (hc : m.Compiles c raw .noneOf) : m.Matches c raw .noneOf e := by
  rw [matches_iff_of_isNaN hv hn]
  exact ⟨hc, fun t _ => Scalar.not_standsTo_of_isNaN hn _ _ _⟩

theorem matches_notBetween_of_isNaN (hc : m.Compiles c raw .notBetween) :
    m.Matches c raw .notBetween e := by
  rw [matches_iff_of_isNaN hv hn]
  refine ⟨hc, ?_⟩
  rintro ⟨low, high, -, hlow, -⟩
  exact Scalar.not_standsTo_of_isNaN hn _ _ _ hlow

end NotNumber

/-! Numbers -/

theorem exists_read_of_noneOf (hc : m.Compiles c raw .noneOf) :
    ∀ t ∈ Text.splitList c.listSeparator raw, ∃ w, Scalar.read m.kind t = some w := by
  obtain ⟨-, hf⟩ := compiles_iff.mp hc
  have hf : m.tokenFault? (Text.splitList c.listSeparator raw) = none := hf
  intro t ht
  have h := List.find?_eq_none.mp (Option.map_eq_none_iff.mp hf) t ht
  simpa [Option.ne_none_iff_exists'] using h

theorem matches_noneOf_of_regular (hk : m.kind.allows .lessThan = true)
    (hc : m.Compiles c raw .noneOf) (he : m.Regular e) :
    m.Matches c raw .noneOf e ↔
      ∀ t ∈ Text.splitList c.listSeparator raw, m.Matches c t .notEquals e := by
  have hs := ne_string_of_ordered hk
  have hequals : ∀ t ∈ Text.splitList c.listSeparator raw,
      (m.Matches c t .notEquals e ↔ ¬ (m.read e).StandsTo m.kind t (· = .eq)) := by
    intro t ht
    obtain ⟨w, hw⟩ := exists_read_of_noneOf hc t ht
    have hct : m.Compiles c t .equals := (compiles_order hk (by decide)).mpr ⟨w, hw⟩
    rw [matches_opposite .equality hct he, matches_order_iff hk (by decide) he hw]
    rfl
  rw [matches_iff_holdsOf he.conforms, Operator.holdsOf_eq_holdsOfOrdered he.kind_eq hs]
  constructor
  · rintro ⟨-, h⟩ t ht
    exact (hequals t ht).mpr (h t ht)
  · intro h
    exact ⟨hc, fun t ht => (hequals t ht).mp (h t ht)⟩

theorem matches_notBetween_of_regular {low high : String} (hk : m.kind.allows .lessThan = true)
    (ht : Text.splitRange c.listSeparator raw = [low, high])
    (hc : m.Compiles c raw .notBetween) (he : m.Regular e) :
    m.Matches c raw .notBetween e ↔
      m.Matches c low .lessThan e ∨ m.Matches c high .greaterThan e := by
  have hb : m.Compiles c raw .between := (compiles_opposite .range).mpr hc
  obtain ⟨hge, hle⟩ := (compiles_between_iff hk ht).mp hb
  have hlow : m.Compiles c low .lessThan := by
    rwa [compiles_order hk (by decide)] at hge ⊢
  have hhigh : m.Compiles c high .lessThan := by
    rwa [compiles_order hk (by decide)] at hle ⊢
  rw [matches_opposite .range hb he, matches_between_iff hk ht he,
    matches_greaterThanOrEqual_iff hlow he, matches_lessThanOrEqual_iff hhigh he, not_and_or,
    not_not, not_not]

/-! Values of any sort -/

variable (m c) in
/-- What negated sets and ranges on an ordered field say, told by the operators that compare. -/
structure NegationLaws : Prop where
  noneOf : ∀ raw e, m.kind.isNumeric = true ∨ m.kind.isTemporal = true →
    (m.read e).kind? = some m.kind → m.Compiles c raw .noneOf →
      (m.Matches c raw .noneOf e ↔ (m.read e).isNaN = true ∨
        ∀ t ∈ Text.splitList c.listSeparator raw, m.Matches c t .notEquals e)
  notBetween : ∀ raw low high e, m.kind.isNumeric = true ∨ m.kind.isTemporal = true →
    (m.read e).kind? = some m.kind → Text.splitRange c.listSeparator raw = [low, high] →
      m.Compiles c raw .notBetween →
        (m.Matches c raw .notBetween e ↔ (m.read e).isNaN = true ∨
          m.Matches c low .lessThan e ∨ m.Matches c high .greaterThan e)
  compares : ∀ raw op e, (m.read e).kind? = some m.kind → (m.read e).isNaN = true →
    op.toClass = .comparison → ¬ m.Matches c raw op e

/-- Negated sets and ranges deny the comparisons that they stand for, and hold besides of what is
no number, of which no comparison holds. -/
theorem negationLaws (m : Mapping ε) (c : Config) : m.NegationLaws c where
  noneOf := by
    intro raw e hk hv hc
    cases hn : (m.read e).isNaN with
    | true => simp [matches_noneOf_of_isNaN hv hn hc]
    | false =>
      simp [matches_noneOf_of_regular ((allows_lessThan_iff _).mpr hk) hc ⟨hv, hn⟩]
  notBetween := by
    intro raw low high e hk hv ht hc
    cases hn : (m.read e).isNaN with
    | true => simp [matches_notBetween_of_isNaN hv hn hc]
    | false =>
      simp [matches_notBetween_of_regular ((allows_lessThan_iff _).mpr hk) ht hc ⟨hv, hn⟩]
  compares := fun _ _ _ hv hn hop => not_matches_of_isNaN hv hn hop

/-- A field of ratios. -/
def ratio : Mapping Binary64 := .ofFunction "ratio" id false

/-- A pattern that is no number. -/
def noRatio : Binary64 := .ofMagnitude .double false 0x7ff8000000000000

/-- It is in no set and outside every range, and yet it neither differs from a token nor lies to
either side of the range. -/
theorem noRatio_escapes_comparisons :
    ratio.kind.isNumeric = true ∧ (ratio.read noRatio).kind? = some ratio.kind ∧
      Text.splitList ',' "1" = ["1"] ∧ ratio.Matches {} "1" .noneOf noRatio ∧
      ¬ ratio.Matches {} "1" .notEquals noRatio ∧
      Text.splitRange ',' "1, 2" = ["1", "2"] ∧ ratio.Matches {} "1, 2" .notBetween noRatio ∧
      ¬ ratio.Matches {} "1" .lessThan noRatio ∧ ¬ ratio.Matches {} "2" .greaterThan noRatio := by
  have hv : (ratio.read noRatio).kind? = some ratio.kind := rfl
  have hn : (ratio.read noRatio).isNaN = true := by decide
  have hnoneOf : ratio.Compiles {} "1" .noneOf := ⟨_, rfl⟩
  have hnotBetween : ratio.Compiles {} "1, 2" .notBetween := ⟨_, rfl⟩
  exact ⟨rfl, hv, by decide, matches_noneOf_of_isNaN hv hn hnoneOf,
    not_matches_of_isNaN hv hn rfl, by decide, matches_notBetween_of_isNaN hv hn hnotBetween,
    not_matches_of_isNaN hv hn rfl, not_matches_of_isNaN hv hn rfl⟩

end Mapping

end Sift
