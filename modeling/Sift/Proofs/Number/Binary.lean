import Sift.Number.Binary

/-!
# Places and ranks

The sign and the magnitude tell a pattern. So the rank, which is read off them, tells it too, and
the place is what is left of the rank if the zeros are not told apart. What is no number lies
beyond all numbers at either end.
-/

namespace Sift.Number.Binary

variable {f : BinaryFormat} {x y z : Binary f}

theorem toNat_bits (x : Binary f) : x.bits.toNat =
    (if x.negative then Nat.pow 2 f.magnitudeBits else 0) + x.magnitude := by
  have hlt : x.bits.toNat < Nat.pow 2 f.magnitudeBits + Nat.pow 2 f.magnitudeBits := by
    have h := x.bits.isLt
    rw [Nat.pow_succ] at h
    simpa [Nat.mul_two] using h
  have hmsb : x.negative = decide (Nat.pow 2 f.magnitudeBits ≤ x.bits.toNat) :=
    BitVec.msb_eq_decide x.bits
  unfold magnitude
  by_cases h : Nat.pow 2 f.magnitudeBits ≤ x.bits.toNat
  · simp only [hmsb, h, decide_true, if_true]
    rw [Nat.mod_eq_sub_mod h, Nat.mod_eq_of_lt (by omega)]
    omega
  · simp only [hmsb, h, decide_false, Bool.false_eq_true, if_false]
    rw [Nat.mod_eq_of_lt (by omega)]
    omega

theorem eq_of_bits (h : x.bits = y.bits) : x = y := by
  cases x
  cases y
  cases h
  rfl

theorem eq_of_sign (hn : x.negative = y.negative) (hm : x.magnitude = y.magnitude) : x = y := by
  apply eq_of_bits
  apply BitVec.eq_of_toNat_eq
  rw [toNat_bits, toNat_bits, hn, hm]

/-- Rank and place on the side of the sign. A negative pattern has a rank below zero, any other has
none. -/
theorem rank_and_place (x : Binary f) :
    x.negative = true ∧ x.rank = -x.magnitude - 1 ∧ x.place = -x.magnitude ∨
      x.negative = false ∧ x.rank = x.magnitude ∧ x.place = x.magnitude := by
  cases h : x.negative with
  | true => exact .inl (by simp [rank, place, h])
  | false => exact .inr (by simp [rank, place, h])

theorem eq_of_rank (h : x.rank = y.rank) : x = y := by
  rcases x.rank_and_place with ⟨hx, hrx, -⟩ | ⟨hx, hrx, -⟩
  · rcases y.rank_and_place with ⟨hy, hry, -⟩ | ⟨hy, hry, -⟩
    · exact eq_of_sign (hx.trans hy.symm) (by omega)
    · omega
  · rcases y.rank_and_place with ⟨hy, hry, -⟩ | ⟨hy, hry, -⟩
    · omega
    · exact eq_of_sign (hx.trans hy.symm) (by omega)

theorem compareRanks_eq_iff : x.compareRanks y = .eq ↔ x.bits = y.bits := by
  unfold compareRanks
  rw [Int.compare_eq_eq]
  constructor
  · intro h
    rw [eq_of_rank h]
  · intro h
    rw [eq_of_bits h]

theorem place_le_of_rank_le (h : x.rank ≤ y.rank) : x.place ≤ y.place := by
  have hx := x.rank_and_place
  have hy := y.rank_and_place
  omega

theorem rank_lt_of_place_lt (h : x.place < y.place) : x.rank < y.rank := by
  rcases Int.lt_or_le x.rank y.rank with hr | hr
  · exact hr
  · exact absurd (place_le_of_rank_le hr) (Int.not_le.mpr h)

theorem compareNumbers_eq_some_iff {o : Ordering} :
    x.compareNumbers y = some o ↔
      (x.isNaN = false ∧ y.isNaN = false) ∧ compare x.place y.place = o := by
  unfold compareNumbers
  cases x.isNaN <;> cases y.isNaN <;> simp

theorem isZero_iff : x.isZero = true ↔ x.magnitude = 0 := decide_eq_true_iff

/-- Two patterns have one place if they are one pattern or both zeros. -/
theorem place_eq_iff : x.place = y.place ↔ x = y ∨ x.magnitude = 0 ∧ y.magnitude = 0 := by
  constructor
  · intro h
    rcases x.rank_and_place with ⟨hx, -, hpx⟩ | ⟨hx, -, hpx⟩
    · rcases y.rank_and_place with ⟨hy, -, hpy⟩ | ⟨hy, -, hpy⟩
      · exact .inl (eq_of_sign (hx.trans hy.symm) (by omega))
      · exact .inr (by omega)
    · rcases y.rank_and_place with ⟨hy, -, hpy⟩ | ⟨hy, -, hpy⟩
      · exact .inr (by omega)
      · exact .inl (eq_of_sign (hx.trans hy.symm) (by omega))
  · rintro (rfl | ⟨hx, hy⟩)
    · rfl
    · simp [place, hx, hy]

/-- Numbers compare as equal exactly if they are the same number. -/
theorem compareNumbers_eq_iff : x.compareNumbers y = some .eq ↔ x.sameNumber y = true := by
  rw [compareNumbers_eq_some_iff, Int.compare_eq_eq, place_eq_iff]
  simp [sameNumber, isZero_iff, and_assoc]

/-- Where numbers differ, their patterns differ in the same way. -/
theorem compareRanks_of_compareNumbers {o : Ordering} (h : x.compareNumbers y = some o)
    (ho : o ≠ .eq) : x.compareRanks y = o := by
  obtain ⟨-, rfl⟩ := compareNumbers_eq_some_iff.mp h
  unfold compareRanks
  rcases Int.lt_trichotomy x.place y.place with hlt | heq | hgt
  · rw [Int.compare_eq_lt.mpr hlt, Int.compare_eq_lt.mpr (rank_lt_of_place_lt hlt)]
  · exact absurd (Int.compare_eq_eq.mpr heq) ho
  · rw [Int.compare_eq_gt.mpr hgt, Int.compare_eq_gt.mpr (rank_lt_of_place_lt hgt)]

/-- Between two numbers there are only numbers. -/
theorem isNaN_of_between (hxy : x.rank ≤ y.rank) (hyz : y.rank ≤ z.rank) (hx : x.isNaN = false)
    (hz : z.isNaN = false) : y.isNaN = false := by
  simp only [isNaN, decide_eq_false_iff_not] at hx hz ⊢
  rcases y.rank_and_place with ⟨-, hy, -⟩ | ⟨-, hy, -⟩
  · have := x.rank_and_place
    omega
  · have := z.rank_and_place
    omega

end Sift.Number.Binary
