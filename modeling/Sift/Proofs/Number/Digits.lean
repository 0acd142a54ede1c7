import Sift.Number.Digits

/-!
# Digits that were written

A row of digits stands for one number, with or without zeros in front. The digits that are written
of a number therefore read back as that number.
-/

namespace Sift.Number

variable {width n : Nat} {ds : List Char}

def IsDigits (ds : List Char) : Prop := ∀ c ∈ ds, c.isDigit = true

theorem isDigits_toDigits (n : Nat) : IsDigits (Nat.toDigits 10 n) :=
  fun _ => Nat.isDigit_of_mem_toDigits (by omega) (by omega)

theorem ofDigits_toDigits (n : Nat) : ofDigits (Nat.toDigits 10 n) = n :=
  Nat.ofDigitChars_ten_toDigits

/-! Digits up to a width -/

theorem isDigits_padded (width n : Nat) : IsDigits (padded width n) := by
  intro c hc
  rcases List.mem_append.mp hc with hc | hc
  · rw [List.eq_of_mem_replicate hc]
    rfl
  · exact isDigits_toDigits n c hc

theorem ofDigits_padded (width n : Nat) : ofDigits (padded width n) = n := by
  unfold ofDigits padded
  rw [Nat.ofDigitChars_append, Nat.ofDigitChars_replicate_zero, Nat.mul_zero]
  exact ofDigits_toDigits n

theorem le_length_padded (width n : Nat) : width ≤ (padded width n).length := by
  simp only [padded, List.length_append, List.length_replicate]
  omega

theorem length_padded (hw : 0 < width) (h : n < Nat.pow 10 width) :
    (padded width n).length = width := by
  have hlen : (Nat.toDigits 10 n).length ≤ width :=
    (Nat.length_toDigits_le_iff (by omega) hw).mpr h
  simp only [padded, List.length_append, List.length_replicate]
  omega

theorem exists_padded_eq_cons (width n : Nat) :
    ∃ c ds, padded width n = c :: ds ∧ c.isDigit = true := by
  have hne : padded width n ≠ [] := by simp [padded, Nat.toDigits_ne_nil]
  obtain ⟨c, ds, h⟩ := List.exists_cons_of_ne_nil hne
  refine ⟨c, ds, h, isDigits_padded width n c ?_⟩
  rw [h]
  exact List.mem_cons_self

/-! Integers -/

theorem readNat_toDigits (n : Nat) : readNat (Nat.toDigits 10 n) = some n := by
  have hall : (Nat.toDigits 10 n).all Char.isDigit = true :=
    List.all_eq_true.mpr (isDigits_toDigits n)
  rw [readNat, if_pos ⟨Nat.toDigits_ne_nil, hall⟩, ofDigits_toDigits]

/-- A text that begins with a digit has no sign. -/
theorem readInt_of_digits (hd : IsDigits ds) :
    readInt ds = (readNat ds).map Nat.cast := by
  unfold readInt
  split
  · exact absurd (hd '-' List.mem_cons_self) (by decide)
  · exact absurd (hd '+' List.mem_cons_self) (by decide)
  · cases readNat ds <;> rfl

theorem readInt_intDigits (n : Int) : readInt (intDigits n) = some n := by
  unfold intDigits
  split
  · have hn : -(n.natAbs : Int) = n := by omega
    simp only [readInt, readNat_toDigits, Option.bind_eq_bind, Option.bind_some, Option.pure_def,
      Option.map_some, hn]
  · have hn : (n.natAbs : Int) = n := by omega
    rw [readInt_of_digits (isDigits_toDigits _), readNat_toDigits,
      Option.map_some, hn]

theorem readInt32_intDigits (n : Int32) : readInt32 (intDigits n.toInt) = some n := by
  have hn : Int32.minValue.toInt ≤ n.toInt ∧ n.toInt ≤ Int32.maxValue.toInt :=
    ⟨n.minValue_le_toInt, n.toInt_le⟩
  rw [readInt32, readInt_intDigits]
  simp only [Option.bind_eq_bind, Option.bind_some, dif_pos hn, Int32.ofIntLE_toInt]

theorem readInt64_intDigits (n : Int64) : readInt64 (intDigits n.toInt) = some n := by
  have hn : Int64.minValue.toInt ≤ n.toInt ∧ n.toInt ≤ Int64.maxValue.toInt :=
    ⟨n.minValue_le_toInt, n.toInt_le⟩
  rw [readInt64, readInt_intDigits]
  simp only [Option.bind_eq_bind, Option.bind_some, dif_pos hn, Int64.ofIntLE_toInt]

end Sift.Number
