import Sift.Proofs.Calendar.Reading
import Sift.Proofs.Meaning.Laws

/-!
# One operand for both kinds of dates

What a date field takes as an operand, a field of dates with offset takes too, and reads the same
wall clock. The operators that ask for a year, a month or a day therefore select the same days on
both.
-/

namespace Sift

open Sift.Calendar

variable {ε ε' : Type}

namespace Scalar

variable {raw : String} {v v' w w' : Scalar} {k k' : Kind}

/-- An operand of a date is one of a date with offset, and its day is the same. -/
theorem read_dateWithOffset_of_date (h : Scalar.read .date raw = some v) :
    ∃ t d, v = .date t ∧ Scalar.read .dateWithOffset raw = some (.dateWithOffset d) ∧
      d.wall = t := by
  simp only [Scalar.read, Option.map_eq_some_iff] at h ⊢
  obtain ⟨t, ht, rfl⟩ := h
  obtain ⟨d, hd, hw, -⟩ := readOffsetDateTime_of_readDateTime ht
  exact ⟨t, d, rfl, ⟨d, hd, rfl⟩, hw⟩

theorem sharesDay_congr (hw : Scalar.read k raw = some w) (hw' : Scalar.read k' raw = some w')
    (hday : w.day? = w'.day?) (hv : v.day? = v'.day?) (agree : Date → Date → Prop) :
    v.SharesDay k raw agree ↔ v'.SharesDay k' raw agree := by
  simp [SharesDay, hw, hw', hday, hv]

theorem eq_null_of_day? (hk : v.kind? = some .date ∨ v.kind? = some .dateWithOffset ∨ v = .null)
    (hv : v.day? = none) : v = .null := by
  cases v <;> simp_all [kind?, day?]

end Scalar

namespace Mapping

variable {m : Mapping ε} {m' : Mapping ε'} {c : Config} {raw : String} {op : Operator} {e : ε}
  {e' : ε'}

theorem tokenFault?_eq_none_iff {tokens : List String} :
    m.tokenFault? tokens = none ↔ ∀ t ∈ tokens, ∃ w, Scalar.read m.kind t = some w := by
  simp [tokenFault?, Option.ne_none_iff_exists']

/-- A field that reads every text that another reads finds no more fault with an operand. -/
theorem operandFault?_eq_none_of_reads
    (hread : ∀ t, (∃ w, Scalar.read m.kind t = some w) → ∃ w, Scalar.read m'.kind t = some w)
    (h : m.operandFault? c raw op = none) : m'.operandFault? c raw op = none := by
  have htokens (tokens : List String) (ht : m.tokenFault? tokens = none) :
      m'.tokenFault? tokens = none := by
    rw [tokenFault?_eq_none_iff] at ht ⊢
    intro t hm
    exact hread t (ht t hm)
  unfold operandFault? at h ⊢
  cases hc : op.toClass with
  | structural => rfl
  | range =>
    simp only [hc] at h ⊢
    split at h
    · rename_i hlen
      rw [if_pos hlen]
      exact htokens _ h
    · cases h
  | set | comparison | textual | granularity =>
    simp only [hc] at h ⊢
    exact htokens _ h

theorem compiles_dateWithOffset (hk : m.kind = .date) (hk' : m'.kind = .dateWithOffset)
    (h : m.Compiles c raw op) : m'.Compiles c raw op := by
  rw [compiles_iff, hk] at h
  rw [compiles_iff, hk']
  refine ⟨h.1, operandFault?_eq_none_of_reads ?_ h.2⟩
  intro t ht
  rw [hk] at ht
  obtain ⟨v, hv⟩ := ht
  obtain ⟨-, d, -, hd, -⟩ := Scalar.read_dateWithOffset_of_date hv
  exact ⟨.dateWithOffset d, by rw [hk', hd]⟩

/-- An operator that asks for a part of the day holds of values of the same day alike, whichever of
the two kinds they are of. -/
theorem holdsOf_dateWithOffset_iff (hop : op.toClass = .granularity) (he : m.Conforms e)
    (he' : m'.Conforms e') (hk : m.kind = .date) (hk' : m'.kind = .dateWithOffset)
    (hday : (m.read e).day? = (m'.read e').day?) {w : Scalar}
    (hw : Scalar.read .date raw = some w) :
    op.HoldsOf c .date raw (m.read e) ↔ op.HoldsOf c .dateWithOffset raw (m'.read e') := by
  obtain ⟨t, d, rfl, hd, hwall⟩ := Scalar.read_dateWithOffset_of_date hw
  have hparts : (Scalar.date t).day? = (Scalar.dateWithOffset d).day? := by
    simp [Scalar.day?, hwall]
  rw [Conforms, hk] at he
  rw [Conforms, hk'] at he'
  rcases he with hv | ⟨hv, -⟩
  · rcases he' with hv' | ⟨hv', -⟩
    · rw [Operator.holdsOf_eq_holdsOfOrdered hv (by decide),
        Operator.holdsOf_eq_holdsOfOrdered hv' (by decide)]
      have hshares (agree : Date → Date → Prop) :=
        Scalar.sharesDay_congr hw hd hparts hday agree
      cases op <;> cases hop <;> exact hshares _
    · rw [hv'] at hday
      rw [Scalar.eq_null_of_day? (.inl hv) hday] at hv
      cases hv
  · rw [hv] at hday ⊢
    rcases he' with hv' | ⟨hv', -⟩
    · rw [Scalar.eq_null_of_day? (.inr (.inl hv')) hday.symm] at hv'
      cases hv'
    · rw [hv']
      rfl

/-- On entities of the same day the operators that ask for a part of it agree, whatever reads the
day. -/
theorem matches_dateWithOffset_iff (hk : m.kind = .date) (hk' : m'.kind = .dateWithOffset)
    (hop : op.toClass = .granularity) (he : m.Conforms e) (he' : m'.Conforms e')
    (hday : (m.read e).day? = (m'.read e').day?) (h : m.Compiles c raw op) :
    m.Matches c raw op e ↔ m'.Matches c raw op e' := by
  have h' := compiles_dateWithOffset hk hk' h
  have hread : ∃ w, Scalar.read m.kind raw = some w := by
    have hfault := (compiles_iff.mp h).2
    rw [operandFault?_of_single (by simp [hop]), tokenFault?_eq_none_iff] at hfault
    exact hfault raw List.mem_cons_self
  obtain ⟨w, hw⟩ := hread
  rw [hk] at hw
  rw [matches_iff_holdsOf he, matches_iff_holdsOf he', and_iff_right h, and_iff_right h', hk, hk']
  exact holdsOf_dateWithOffset_iff hop he he' hk hk' hday hw

end Mapping

/-! The laws -/

/-- What a text is as a date, it is as a date with offset too. -/
structure DateOperandLaws (raw : String) : Prop where
  wall_clock : ∀ t, readDateTime raw = some t → ∃ d, readOffsetDateTime raw = some d ∧
    d.wall = t ∧ (d.offset = .utc ∨ CarriesOffset raw d.offset)
  accepted : ∀ v, Scalar.read .date raw = some v →
    ∃ w, Scalar.read .dateWithOffset raw = some w ∧
      ∀ g : Granularity, g.project w = g.project v
  compiles : ∀ {ε ε' : Type} (m : Mapping ε) (m' : Mapping ε') c op, m.kind = .date →
    m'.kind = .dateWithOffset → m.Compiles c raw op → m'.Compiles c raw op
  selects : ∀ {ε ε' : Type} (m : Mapping ε) (m' : Mapping ε') c op e e', m.kind = .date →
    m'.kind = .dateWithOffset → op.toClass = .granularity → m.Compiles c raw op →
      m.Conforms e → m'.Conforms e' → (m.read e).day? = (m'.read e').day? →
        (m.Matches c raw op e ↔ m'.Matches c raw op e')

theorem dateOperandLaws (raw : String) : DateOperandLaws raw where
  wall_clock := fun _ h => readOffsetDateTime_of_readDateTime h
  accepted := by
    intro v hv
    obtain ⟨t, d, rfl, hd, rfl⟩ := Scalar.read_dateWithOffset_of_date hv
    exact ⟨.dateWithOffset d, hd, fun g => rfl⟩
  compiles := fun _ _ _ _ hk hk' h => Mapping.compiles_dateWithOffset hk hk' h
  selects := fun _ _ _ _ _ _ hk hk' hop h he he' hday =>
    Mapping.matches_dateWithOffset_iff hk hk' hop he he' hday h

/-- The same second on the wall clock; only a date with offset keeps how far east it was written. -/
example :
    let text := "2016-12-31T23:59:60.5+01:00"
    (readDateTime text).map (·.clock) = (readOffsetDateTime text).map (·.wall.clock) ∧
      (readDateTime text).map (·.clock.nano) = some 1500000000 ∧
        (readOffsetDateTime text).map (·.offset.seconds) = some 3600 := by
  decide

end Sift
