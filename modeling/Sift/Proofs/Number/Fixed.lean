import Sift.Number.Fixed
import Sift.Proofs.Number.Digits

/-!
# Decimals that were written

The digits of a decimal fit its range, and so does every number that begins with some of them.
Reading them back therefore never rounds. Only the sign of a zero is lost, which no comparison
sees.
-/

namespace Sift.Number.Fixed

variable {point any : Bool} {n scale : Nat} {c : Char} {ds rest whole fraction : List Char}
  {d : Fixed}

/-! Scanning digits that fit -/

theorem le_ofDigitChars (ds : List Char) (n : Nat) : n ≤ Nat.ofDigitChars 10 ds n := by
  rw [Nat.ofDigitChars_eq_ofDigitChars_zero]
  have hpow : 1 * n ≤ 10 ^ ds.length * n := Nat.mul_le_mul_right n (Nat.pow_pos (by omega))
  omega

theorem scan_digit (hc : c.isDigit = true) (hlt : 10 * n + (c.toNat - '0'.toNat) < bound)
    (hs : (if point then scale + 1 else 0) < maxScale) :
    scan point any n scale (c :: rest) =
      scan point true (10 * n + (c.toNat - '0'.toNat)) (if point then scale + 1 else 0) rest := by
  rw [scan, if_pos hc, if_neg (Nat.not_le.mpr hlt), if_neg (Nat.not_le.mpr hs)]

theorem scan_whole (hne : ds ≠ []) (hd : IsDigits ds)
    (hlt : Nat.ofDigitChars 10 ds n < bound) :
    scan false any n 0 (ds ++ rest) = scan false true (Nat.ofDigitChars 10 ds n) 0 rest := by
  induction ds generalizing n any with
  | nil => exact absurd rfl hne
  | cons c ds ih =>
    obtain ⟨hc, hd⟩ := List.forall_mem_cons.mp hd
    rw [Nat.ofDigitChars_cons] at hlt ⊢
    have hstep := Nat.lt_of_le_of_lt (le_ofDigitChars ds _) hlt
    rw [List.cons_append, scan_digit hc hstep (by decide)]
    cases ds with
    | nil => rfl
    | cons c' ds => exact ih (List.cons_ne_nil c' ds) hd hlt

theorem scan_fraction (hd : IsDigits ds) (hlt : Nat.ofDigitChars 10 ds n < bound)
    (hs : scale + ds.length ≤ maxScale) :
    scan true true n scale ds = some (Nat.ofDigitChars 10 ds n, scale + ds.length) := by
  induction ds generalizing n scale with
  | nil => rfl
  | cons c ds ih =>
    obtain ⟨hc, hd⟩ := List.forall_mem_cons.mp hd
    rw [Nat.ofDigitChars_cons] at hlt ⊢
    have hstep := Nat.lt_of_le_of_lt (le_ofDigitChars ds _) hlt
    rw [List.length_cons] at hs ⊢
    rcases Nat.lt_or_ge (scale + 1) maxScale with hplace | hplace
    · have hplaces : scale + 1 + ds.length = scale + (ds.length + 1) := by omega
      rw [scan_digit hc hstep (by simpa using hplace), if_pos rfl, ih hd hlt (by omega), hplaces]
    -- the last place is full, and nothing is left that could round it
    · obtain rfl : ds = [] := List.length_eq_zero_iff.mp (by omega)
      rw [scan, if_pos hc, if_neg (Nat.not_le.mpr hstep), if_pos rfl, if_pos hplace]
      simp [roundingPart, roundOff]

/-! The digits of a decimal -/

theorem exists_digits (d : Fixed) : ∃ whole fraction, whole ≠ [] ∧
    padded (d.scale + 1) d.coefficient = whole ++ fraction ∧ fraction.length = d.scale ∧
      d.digits = (if d.negative then ['-'] else []) ++
        (whole ++ if d.scale = 0 then [] else '.' :: fraction) := by
  have hlen := le_length_padded (d.scale + 1) d.coefficient
  generalize hds : padded (d.scale + 1) d.coefficient = ds at hlen
  refine ⟨ds.take (ds.length - d.scale), ds.drop (ds.length - d.scale), ?_,
    (List.take_append_drop _ ds).symm, ?_, ?_⟩
  · apply List.ne_nil_of_length_pos
    rw [List.length_take]
    omega
  · rw [List.length_drop]
    omega
  · rw [digits, hds]
    split <;> simp

theorem scan_digits (hne : whole ≠ [])
    (hp : padded (d.scale + 1) d.coefficient = whole ++ fraction)
    (hs : fraction.length = d.scale) :
    scan false false 0 0 (whole ++ if d.scale = 0 then [] else '.' :: fraction) =
      some (d.coefficient, d.scale) := by
  have hvalue : Nat.ofDigitChars 10 fraction (Nat.ofDigitChars 10 whole 0) = d.coefficient := by
    rw [← Nat.ofDigitChars_append, ← hp]
    exact ofDigits_padded _ _
  have hd : IsDigits (whole ++ fraction) := by
    rw [← hp]
    exact isDigits_padded _ _
  obtain ⟨hwhole, hfraction⟩ := List.forall_mem_append.mp hd
  have hlt : Nat.ofDigitChars 10 fraction (Nat.ofDigitChars 10 whole 0) < bound := by
    rw [hvalue]
    exact d.coefficient_lt
  rw [scan_whole hne hwhole (Nat.lt_of_le_of_lt (le_ofDigitChars fraction _) hlt)]
  by_cases hzero : d.scale = 0
  · obtain rfl : fraction = [] := List.length_eq_zero_iff.mp (by omega)
    rw [if_pos hzero, hzero, ← hvalue]
    rfl
  · have hpoint (n : Nat) : scan false true n 0 ('.' :: fraction) = scan true true n 0 fraction :=
      rfl
    have hscale := d.scale_le
    rw [if_neg hzero, hpoint, scan_fraction hfraction hlt (by omega), hvalue, hs, Nat.zero_add]

/-- The decimal without the sign of a zero. -/
def plainZero (d : Fixed) : Fixed := { d with negative := d.negative && d.coefficient ≠ 0 }

theorem plainZero_eq (h : d.negative = true → d.coefficient ≠ 0) : d.plainZero = d := by
  obtain ⟨negative, n, scale, hn, hs⟩ := d
  cases negative with
  | false => rfl
  | true => simpa [plainZero] using h rfl

theorem units_plainZero (d : Fixed) : d.plainZero.units = d.units := by
  have hunscaled : d.plainZero.unscaled = d.unscaled := by
    unfold unscaled plainZero
    by_cases hn : d.coefficient = 0 <;> simp [hn]
  rw [units, units, hunscaled]
  rfl

theorem compare_plainZero (x d : Fixed) : compare x d.plainZero = compare x d := by
  show compare x.units d.plainZero.units = compare x.units d.units
  rw [units_plainZero]

theorem ofParts?_self (d : Fixed) (negative : Bool) :
    ofParts? negative d.coefficient d.scale = some { d with negative := negative } :=
  dif_pos ⟨d.coefficient_lt, d.scale_le⟩

theorem readPlain_of_digit (hc : c.isDigit = true) :
    readPlain (c :: rest) =
      (scan false false 0 0 (c :: rest)).bind fun (n, scale) => ofParts? false n scale := by
  unfold readPlain
  split
  · rename_i he
    cases he
    cases hc
  · rename_i he
    cases he
    cases hc
  · rfl

theorem read_digits (d : Fixed) : read d.digits = some d.plainZero := by
  obtain ⟨whole, fraction, hne, hp, hs, hdigits⟩ := exists_digits d
  have hscan := scan_digits hne hp hs
  have hplain : readPlain d.digits = some d.plainZero := by
    rw [hdigits]
    cases hn : d.negative with
    | true =>
      rw [if_pos rfl, List.singleton_append, readPlain, hscan, Option.bind_some]
      show ofParts? (d.coefficient ≠ 0) d.coefficient d.scale = _
      rw [ofParts?_self, plainZero, hn, Bool.true_and]
    | false =>
      obtain ⟨c, cs, rfl⟩ := List.exists_cons_of_ne_nil hne
      have hc : c.isDigit = true := by
        apply isDigits_padded (d.scale + 1) d.coefficient
        rw [hp]
        exact List.mem_cons_self
      rw [if_neg (by decide), List.nil_append, List.cons_append, readPlain_of_digit hc,
        ← List.cons_append, hscan, Option.bind_some]
      show ofParts? false d.coefficient d.scale = _
      rw [ofParts?_self, plainZero, hn, Bool.false_and]
  rw [read, hplain]
  rfl

end Sift.Number.Fixed
