import Sift.Proofs.Calendar.RoundTrip
import Sift.Proofs.Number.Fixed
import Sift.Proofs.Scalar.Order
import Sift.Scalar.Operand
import Sift.Scalar.Written

/-!
# Written values as operands

What is written of a number of fixed width, a decimal, a truth value or a date is an operand of the
same kind, and the value that it is read as compares with all others as the first one did. It is
the first one itself, with its scale or its offset, but for a zero with a sign.
-/

namespace Sift

open Sift.Number Sift.Calendar Sift.Text

/-! No blanks are written -/

theorem Number.IsDigits.isSolid {ds : List Char} (h : IsDigits ds) : IsSolid ds :=
  fun c hc => isBlank_of_isDigit (h c hc)

@[simp] theorem isSolid_padded (width n : Nat) : IsSolid (padded width n) :=
  (isDigits_padded width n).isSolid

theorem isSolid_intDigits (n : Int) : IsSolid (intDigits n) := by
  have hdigits := (isDigits_toDigits n.natAbs).isSolid
  unfold intDigits
  split <;> simp [hdigits, isBlank]

theorem Number.Fixed.isSolid_digits (d : Fixed) : IsSolid d.digits := by
  obtain ⟨whole, fraction, -, hp, -, hdigits⟩ := Fixed.exists_digits d
  have hsolid := isSolid_padded (d.scale + 1) d.coefficient
  rw [hp, isSolid_append] at hsolid
  rw [hdigits]
  split <;> split <;> simp [hsolid, isBlank]

theorem Calendar.Date.isSolid_written (d : Date) : IsSolid d.written := by
  unfold Date.written
  dsimp only
  split
  · simp [isBlank]
  · split <;> simp [isBlank]

theorem Calendar.Clock.isSolid_written (c : Clock) : IsSolid c.written := by
  have hfraction : IsSolid c.writtenFraction := by
    unfold Clock.writtenFraction
    dsimp only
    repeat' split
    all_goals simp [isBlank]
  simp [Clock.written, hfraction, isBlank]

theorem Calendar.DateTime.isSolid_written (t : DateTime) : IsSolid t.written := by
  simp [DateTime.written, Date.isSolid_written, Clock.isSolid_written, isBlank]

theorem Calendar.OffsetDateTime.isSolid_written (d : OffsetDateTime) : IsSolid d.written := by
  have hoffset : IsSolid d.offset.written := by
    unfold Offset.written
    dsimp only
    split <;> simp [isBlank]
  simp [OffsetDateTime.written, DateTime.isSolid_written, hoffset]

namespace Scalar

variable {k : Kind} {s : String} {v : Scalar}

/-- A zero below which nothing is, but with a sign. -/
def isNegativeZero : Scalar → Bool
  | fixedPoint d => d.negative && d.coefficient = 0
  | _ => false

/-- The one value stands for the other, and is the other but for the sign of a zero. -/
structure StandsFor (v' v : Scalar) : Prop where
  same : v'.same v = true
  compare?_eq : ∀ u : Scalar, u.compare? v' = u.compare? v
  eq : v.isNegativeZero = false → v' = v

theorem same_self (h : v.isFloat = false) : v.same v = true :=
  (totalCompare_eq_iff_same h).mp Std.ReflCmp.compare_self

theorem StandsFor.refl (h : v.isFloat = false) : v.StandsFor v :=
  ⟨same_self h, fun _ => rfl, fun _ => rfl⟩

theorem standsFor_plainZero (d : Fixed) : (fixedPoint d.plainZero).StandsFor (fixedPoint d) where
  same := beq_iff_eq.mpr d.units_plainZero
  compare?_eq := by
    intro u
    cases u with
    | fixedPoint x => exact congrArg some (Fixed.compare_plainZero x d)
    | _ => rfl
  eq := by
    intro h
    rw [Fixed.plainZero_eq]
    simpa [isNegativeZero] using h

/-! Each kind -/

theorem read_written_boolean (b : Bool) :
    Scalar.read .boolean (boolean b).written = some (boolean b) := by
  cases b <;> rfl

theorem read_written_integer (n : Int32) :
    Scalar.read .integer (integer n).written = some (integer n) := by
  simp only [written, Scalar.read, (isSolid_intDigits _).trim_ofList, String.toList_ofList,
    readInt32_intDigits, Option.map_some]

theorem read_written_long (n : Int64) : Scalar.read .long (long n).written = some (long n) := by
  simp only [written, Scalar.read, (isSolid_intDigits _).trim_ofList, String.toList_ofList,
    readInt64_intDigits, Option.map_some]

theorem read_written_fixedPoint (d : Fixed) :
    Scalar.read .fixedPoint (fixedPoint d).written = some (fixedPoint d.plainZero) := by
  simp only [written, Scalar.read, d.isSolid_digits.trim_ofList, String.toList_ofList,
    Fixed.read_digits, Option.map_some]

theorem read_written_date {t : DateTime} (h : t.clock.IsRegular) :
    Scalar.read .date (date t).written = some (date t) := by
  simp only [written, Scalar.read, t.isSolid_written.trim_ofList, readDateTime_written h,
    Option.map_some]

theorem read_written_dateWithOffset {d : OffsetDateTime} (h : d.IsReadable) :
    Scalar.read .dateWithOffset (dateWithOffset d).written = some (dateWithOffset d) := by
  simp only [written, Scalar.read, d.isSolid_written.trim_ofList, readOffsetDateTime_written h,
    Option.map_some]

/-- What is written of a value that was read is an operand that stands for it. -/
theorem exists_read_written
    (hk : k ∈ [Kind.boolean, .integer, .long, .fixedPoint, .date, .dateWithOffset])
    (h : Scalar.read k s = some v) :
    ∃ v', Scalar.read k v.written = some v' ∧ v'.StandsFor v := by
  cases k with
  | string | float32 | float64 => simp at hk
  | boolean =>
    simp only [Scalar.read, Option.map_eq_some_iff] at h
    obtain ⟨b, -, rfl⟩ := h
    exact ⟨_, read_written_boolean b, .refl rfl⟩
  | integer =>
    simp only [Scalar.read, Option.map_eq_some_iff] at h
    obtain ⟨n, -, rfl⟩ := h
    exact ⟨_, read_written_integer n, .refl rfl⟩
  | long =>
    simp only [Scalar.read, Option.map_eq_some_iff] at h
    obtain ⟨n, -, rfl⟩ := h
    exact ⟨_, read_written_long n, .refl rfl⟩
  | fixedPoint =>
    simp only [Scalar.read, Option.map_eq_some_iff] at h
    obtain ⟨d, -, rfl⟩ := h
    exact ⟨_, read_written_fixedPoint d, standsFor_plainZero d⟩
  | date =>
    simp only [Scalar.read, Option.map_eq_some_iff] at h
    obtain ⟨t, ht, rfl⟩ := h
    exact ⟨_, read_written_date (isRegular_of_readDateTime ht), .refl rfl⟩
  | dateWithOffset =>
    simp only [Scalar.read, Option.map_eq_some_iff] at h
    obtain ⟨d, hd, rfl⟩ := h
    exact ⟨_, read_written_dateWithOffset (isReadable_of_readOffsetDateTime hd), .refl rfl⟩

/-- The second 60 of a minute, with a fraction, in a year of five digits and west of universal
time. -/
def leapSecond : OffsetDateTime :=
  ⟨⟨⟨12345, 6, 7, by decide, by decide, by decide⟩, ⟨86399, 1500000000, by decide, by decide⟩⟩,
    ⟨-1800, by decide⟩⟩

theorem exists_read_written_leapSecond :
    Scalar.read .dateWithOffset "+12345-06-07T23:59:60.5 -00:30" =
        some (dateWithOffset leapSecond) ∧
      (dateWithOffset leapSecond).written = "+12345-06-07T23:59:60.500-00:30" ∧
        ∃ v', Scalar.read .dateWithOffset (dateWithOffset leapSecond).written = some v' ∧
          v'.StandsFor (dateWithOffset leapSecond) := by
  have hread : Scalar.read .dateWithOffset "+12345-06-07T23:59:60.5 -00:30" =
      some (dateWithOffset leapSecond) := rfl
  exact ⟨hread, by decide, exists_read_written (by decide) hread⟩

/-- What is rounded to zero keeps its sign until it is written and read again. -/
example : ∃ v, Scalar.read .fixedPoint "-0.1e-28" = some v ∧ v.isNegativeZero = true :=
  ⟨_, rfl, rfl⟩

end Scalar

end Sift
