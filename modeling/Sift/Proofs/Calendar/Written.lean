import Mathlib.Data.List.Forall2
import Sift.Calendar.Written
import Sift.Proofs.Calendar.Reading

/-!
# Patterns on written dates

The first lenient pattern reads a written date of any year and fills in the parts that were written.
The standard form is stricter: where it reads anything it reads the same, so it does not matter
which dates have this form too.
-/

namespace Sift.Calendar

open Sift.Number (padded)

variable {p : Parts} {cs r : List Char} {n : Nat} {is js : Pattern}

/-! Items on what was written -/

def writtenYear (year : Int) : List Char :=
  if 0 ≤ year ∧ year ≤ 9999 then padded 4 year.toNat
  else (if year < 0 then '-' else '+') :: padded 4 year.natAbs

namespace Item

theorem digits_padded {least most : Nat} (hmost : 0 < most) (hleast : least ≤ most)
    (h : n < Nat.pow 10 most) (r : List Char) :
    digits least most (padded most n ++ r) = some (n, r) := by
  have hlen := Number.length_padded hmost h
  rw [digits_append (Number.isDigits_padded most n) (by omega) (by omega) (.inl hlen),
    Number.ofDigits_padded]

theorem dropBlanks_of_isDigit {c : Char} (hc : c.isDigit = true) (cs : List Char) :
    Text.dropBlanks (c :: cs) = c :: cs :=
  Text.dropBlanks_eq_self fun _ he => Option.some.inj he ▸ Text.isBlank_of_isDigit hc

theorem dropBlanks_padded (width n : Nat) (r : List Char) :
    Text.dropBlanks (padded width n ++ r) = padded width n ++ r := by
  obtain ⟨c, ds, h, hc⟩ := Number.exists_padded_eq_cons width n
  rw [h]
  exact dropBlanks_of_isDigit hc _

theorem digits_pair {least : Nat} (hleast : least ≤ 2) (h : n < 100) (r : List Char) :
    digits least 2 (padded 2 n ++ r) = some (n, r) :=
  digits_padded (by omega) hleast h r

theorem read_number (p : Parts) (c : Component) (h : n < 100) (r : List Char) :
    (number c).read p (padded 2 n ++ r) = some (c.fill p n, r) := by
  rw [read, dropBlanks_padded, digits_pair (by omega) h, Option.map_some]

theorem read_mark (p : Parts) (c : Char) (r : List Char) :
    (Pattern.mark c).read p (c :: r) = some (p, r) := by
  simp [Pattern.mark, read]

/-! Years -/

theorem digits_padded_dash (width n : Nat) (hw : 0 < width) (r : List Char) :
    digits 1 (padded width n ++ '-' :: r).length (padded width n ++ '-' :: r) =
      some (n, '-' :: r) := by
  have hlen := Number.le_length_padded width n
  rw [digits_append (Number.isDigits_padded width n) (by omega) (by simp), Number.ofDigits_padded]
  exact .inr fun c hc => Option.some.inj hc ▸ by decide

theorem signedYear_of_isDigit {c : Char} (hc : c.isDigit = true) (cs : List Char) :
    signedYear (c :: cs) = (digits 1 4 (c :: cs)).map fun (n, r) => (n, r) := by
  unfold signedYear
  split
  · rename_i he
    cases he
    cases hc
  · rename_i he
    cases he
    cases hc
  · rfl

theorem read_year_cons {c : Char} (hc : Text.isBlank c = false) (p : Parts) (cs : List Char) :
    Item.year.read p (c :: cs) =
      (signedYear (c :: cs)).map fun (n, r) => ({ p with year := n }, r) := by
  have hkeep : Text.dropBlanks (c :: cs) = c :: cs :=
    Text.dropBlanks_eq_self fun _ he => Option.some.inj he ▸ hc
  rw [read, hkeep]

theorem read_year (p : Parts) (year : Int) (r : List Char) :
    Item.year.read p (writtenYear year ++ '-' :: r) = some ({ p with year := year }, '-' :: r) := by
  have hsigned (n : Nat) := digits_padded_dash 4 n (by omega) r
  unfold writtenYear
  by_cases hshort : 0 ≤ year ∧ year ≤ 9999
  · have hcast : (year.toNat : Int) = year := by omega
    have hlt : year.toNat < 10000 := by omega
    have hdigits : digits 1 4 (padded 4 year.toNat ++ '-' :: r) = some (year.toNat, '-' :: r) :=
      digits_padded (by omega) (by omega) hlt _
    obtain ⟨c, ds, h, hc⟩ := Number.exists_padded_eq_cons 4 year.toNat
    rw [if_pos hshort, h, List.cons_append, read_year_cons (Text.isBlank_of_isDigit hc),
      signedYear_of_isDigit hc, ← List.cons_append, ← h, hdigits]
    simp only [Option.map_some, hcast]
  · rw [if_neg hshort]
    by_cases hneg : year < 0
    · have hcast : -(year.natAbs : Int) = year := by omega
      rw [if_pos hneg, List.cons_append, read_year_cons (by decide), signedYear, hsigned]
      simp only [Option.map_some, hcast]
    · have hcast : (year.natAbs : Int) = year := by omega
      rw [if_neg hneg, List.cons_append, read_year_cons (by decide), signedYear, hsigned]
      simp only [Option.map_some, hcast]

/-! Fractions of a second -/

/-- What may follow a fraction. -/
def EndsFraction (r : List Char) : Prop := ∀ c ∈ r.head?, c.isDigit = false ∧ c ≠ '.'

theorem endsFraction_nil : EndsFraction [] := by simp [EndsFraction]

theorem read_point {width nano : Nat} (p : Parts) (hw : 0 < width) (hle : width ≤ 9)
    (hn : n < Nat.pow 10 width) (hnano : n * Nat.pow 10 (9 - width) = nano)
    (hr : EndsFraction r) :
    fraction.read p ('.' :: padded width n ++ r) = some ({ p with nano := nano }, r) := by
  have hlen := Number.length_padded hw hn
  have hdigits := Number.isDigits_padded width n
  have hne : padded width n ≠ [] := by
    apply List.ne_nil_of_length_pos
    omega
  have hstop : r.takeWhile Char.isDigit = [] ∧ r.dropWhile Char.isDigit = r := by
    cases r with
    | nil => exact ⟨rfl, rfl⟩
    | cons c r => simp [(hr c rfl).1]
  have hleading : Number.leadingDigits (padded width n ++ r) = padded width n := by
    rw [Number.leadingDigits, List.takeWhile_append_of_pos hdigits, hstop.1, List.append_nil]
  have hafter : Number.afterDigits (padded width n ++ r) = r := by
    rw [Number.afterDigits, List.dropWhile_append_of_pos hdigits, hstop.2]
  simp only [read, List.cons_append, nanoseconds, hleading, hafter, List.take_of_length_le
    (Nat.le_trans (Nat.le_of_eq hlen) hle), if_neg hne, Number.ofDigits_padded, hlen, hnano,
    Option.map_some]

theorem read_no_fraction (p : Parts) (hr : EndsFraction r) : fraction.read p r = some (p, r) := by
  cases r with
  | nil => rfl
  | cons c r =>
    simp only [read]
    split
    · rename_i he
      cases he
      exact absurd rfl (hr '.' rfl).2
    · rfl

theorem read_fraction (p : Parts) (c : Clock) (hp : p.nano = 0) (hr : EndsFraction r) :
    fraction.read p (c.writtenFraction ++ r) = some ({ p with nano := c.fraction }, r) := by
  have hlt : c.fraction < 1000000000 := Nat.mod_lt _ (by omega)
  unfold Clock.writtenFraction
  dsimp only
  split
  · rename_i hzero
    rw [List.nil_append, read_no_fraction p hr, hzero, ← hp]
  · split
    · have hmillis : c.fraction / 1000000 < 1000 := by omega
      have hback : c.fraction / 1000000 * 1000000 = c.fraction := by omega
      exact read_point p (by omega) (by omega) hmillis hback hr
    · split
      · have hmicros : c.fraction / 1000 < 1000000 := by omega
        have hback : c.fraction / 1000 * 1000 = c.fraction := by omega
        exact read_point p (by omega) (by omega) hmicros hback hr
      · have hback : c.fraction * 1 = c.fraction := by omega
        exact read_point p (by omega) (by omega) hlt hback hr

/-! Offsets -/

/-- The gap between hours and minutes may be a colon before a digit. -/
def TakesColon (gap : List Char → Option (List Char)) : Prop :=
  ∀ c cs, c.isDigit = true → gap (':' :: c :: cs) = some (c :: cs)

theorem takesColon_colon : TakesColon colon := fun _ _ _ => rfl

theorem takesColon_colonsAndBlanks : TakesColon colonsAndBlanks := by
  intro c cs hc
  have hne : c ≠ ':' := by
    intro h
    rw [h] at hc
    cases hc
  simp [colonsAndBlanks, hne, Text.isBlank_of_isDigit hc]

theorem hoursMinutes_written {gap : List Char → Option (List Char)} (hgap : TakesColon gap)
    (hn : n < 1440) :
    hoursMinutes gap (padded 2 (n / 60) ++ ':' :: padded 2 (n % 60)) = some (n, []) := by
  have hhours (r : List Char) : digits 2 2 (padded 2 (n / 60) ++ r) = some (n / 60, r) :=
    digits_pair (by omega) (by omega) r
  have hminutes : digits 2 2 (padded 2 (n % 60)) = some (n % 60, []) := by
    rw [← List.append_nil (padded 2 (n % 60))]
    exact digits_pair (by omega) (by omega) []
  have hcolon : gap (':' :: padded 2 (n % 60)) = some (padded 2 (n % 60)) := by
    obtain ⟨c, ds, h, hc⟩ := Number.exists_padded_eq_cons 2 (n % 60)
    rw [h]
    exact hgap c ds hc
  have hlt : n % 60 < 60 := Nat.mod_lt _ (by omega)
  have hsum : n / 60 * 60 + n % 60 = n := Nat.div_add_mod' n 60
  simp [hoursMinutes, hhours, hcolon, hminutes, hlt, hsum]

theorem signedOffset_written {gap : List Char → Option (List Char)} (hgap : TakesColon gap)
    {o : Offset} (ho : o.IsWhole) : signedOffset gap o.written = some (o.minutes, []) := by
  have hwhole := ho.seconds_eq
  have hmem := o.seconds_mem
  have hround : (o.seconds.natAbs + 30) / 60 = o.minutes.natAbs := by omega
  have htime := hoursMinutes_written hgap (n := o.minutes.natAbs) (by omega)
  unfold Offset.written
  rw [hround]
  by_cases hneg : o.seconds < 0
  · have hcast : -(o.minutes.natAbs : Int) = o.minutes := by omega
    rw [if_pos hneg, List.cons_append, signedOffset, htime]
    simp only [Option.map_some, hcast]
  · have hcast : (o.minutes.natAbs : Int) = o.minutes := by omega
    rw [if_neg hneg, List.cons_append, signedOffset, htime]
    simp only [Option.map_some, hcast]

theorem read_offset (p : Parts) {o : Offset} (ho : o.IsWhole) :
    offset.read p o.written = some ({ p with offset := o.minutes }, []) := by
  have hkeep : Text.dropBlanks o.written = o.written := by
    apply Text.dropBlanks_eq_self
    unfold Offset.written
    split <;> simp <;> decide
  rw [read, hkeep, signedOffset_written takesColon_colonsAndBlanks ho, Option.map_some]

theorem read_exactOffset (p : Parts) {o : Offset} (ho : o.IsWhole) :
    exactOffset.read p o.written = some ({ p with offset := o.minutes }, []) := by
  have hsigned := signedOffset_written takesColon_colon ho
  have hsign : o.written.head? = some '-' ∨ o.written.head? = some '+' := by
    unfold Offset.written
    split <;> simp
  simp only [read]
  split
  · rename_i he
    simp [he] at hsign
  · rename_i he
    simp [he] at hsign
  · rw [hsigned, Option.map_some]

end Item

/-! Dates on what was written -/

theorem daysInMonth_le (year : Int) (month : Nat) : daysInMonth year month ≤ 31 := by
  unfold daysInMonth
  split
  · split <;> decide
  all_goals decide

namespace Pattern

open Item

theorem readFrom_day (p : Parts) (d : Date) (r : List Char) :
    readFrom p (d.written ++ r) (day '-') =
      some ({ p with year := d.year, month := d.month, day := d.day }, r) := by
  have htext : d.written ++ r =
      writtenYear d.year ++ '-' :: (padded 2 d.month ++ '-' :: (padded 2 d.day ++ r)) := by
    simp [Date.written, writtenYear]
  have hmonth : d.month < 100 := by
    have h := d.month_mem
    omega
  have hday : d.day < 100 := by
    have h := d.day_mem
    have hle := daysInMonth_le d.year d.month
    omega
  rw [htext]
  simp only [day, readFrom, read_year, read_mark, read_number _ _ hmonth, read_number _ _ hday,
    Option.bind_some]
  rfl

theorem readFrom_clock (p : Parts) (c : Clock) (hp : p.nano = 0) (hr : EndsFraction r) :
    readFrom p (c.written ++ r) hourMinuteSecond =
      some ({ p with hour := c.hour, minute := c.minute, second := c.shownSecond,
                     nano := c.fraction }, r) := by
  have htext : c.written ++ r = padded 2 c.hour ++ ':' :: (padded 2 c.minute ++
      ':' :: (padded 2 c.shownSecond ++ (c.writtenFraction ++ r))) := by
    simp [Clock.written]
  have hhour : c.hour < 100 := by
    have h := c.second_lt
    unfold Clock.hour
    omega
  have hminute : c.minute < 100 := by
    unfold Clock.minute
    omega
  have hsecond : c.shownSecond < 100 := by
    have h := c.nano_lt
    unfold Clock.shownSecond
    omega
  rw [htext]
  simp only [hourMinuteSecond, hourMinute, List.cons_append, List.nil_append, readFrom, read_mark,
    read_number _ _ hhour, read_number _ _ hminute, read_number _ _ hsecond, Option.bind_some]
  rw [read_fraction _ c ?_ hr]
  · rfl
  · exact hp

end Pattern

/-! Strict and lenient items -/

namespace Item

/-- Where the one item reads anything, the other reads the same. -/
def Refines (i j : Item) : Prop := ∀ p cs x, i.read p cs = some x → j.read p cs = some x

theorem Refines.refl (i : Item) : i.Refines i := fun _ _ _ h => h

theorem refines_oneOf {allowed more : List Char} (h : allowed ⊆ more) :
    (oneOf allowed).Refines (oneOf more) := by
  intro p cs x hx
  cases cs with
  | nil => cases hx
  | cons c cs =>
    simp only [read] at hx ⊢
    split at hx
    · rename_i hc
      rw [if_pos (h hc), hx]
    · cases hx

theorem digits_of_exact {width : Nat} (hw : 0 < width)
    (h : digits width width cs = some (n, r)) :
    digits 1 width cs = some (n, r) ∧ ∃ c cs', cs = c :: cs' ∧ c.isDigit = true := by
  obtain ⟨ds, rfl, rfl, hd, hleast, hmost⟩ := exists_digits h
  refine ⟨digits_append hd (by omega) hmost (.inl (by omega)), ?_⟩
  obtain ⟨c, ds', rfl⟩ := List.exists_cons_of_length_pos (Nat.lt_of_lt_of_le hw hleast)
  exact ⟨c, ds' ++ r, rfl, hd c List.mem_cons_self⟩

theorem refines_year : exactYear.Refines year := by
  intro p cs x h
  obtain ⟨⟨n, r⟩, hn, rfl⟩ := Option.map_eq_some_iff.mp h
  obtain ⟨hdigits, c, cs, rfl, hc⟩ := digits_of_exact (by omega) hn
  rw [read_year_cons (Text.isBlank_of_isDigit hc), signedYear_of_isDigit hc, hdigits]
  rfl

theorem refines_number (c : Component) : (exact c).Refines (number c) := by
  intro p cs x h
  obtain ⟨⟨n, r⟩, hn, rfl⟩ := Option.map_eq_some_iff.mp h
  obtain ⟨hdigits, c', cs, rfl, hc⟩ := digits_of_exact (by omega) hn
  rw [read, dropBlanks_of_isDigit hc, hdigits]
  rfl

end Item

namespace Pattern

open Item

theorem readFrom_of_refines (h : List.Forall₂ Item.Refines is js) {x : Parts × List Char}
    (hx : readFrom p cs is = some x) : readFrom p cs js = some x := by
  induction h generalizing p cs with
  | nil => exact hx
  | cons hij _ ih =>
    obtain ⟨y, hy, hrest⟩ := Option.bind_eq_some_iff.mp hx
    rw [readFrom, hij _ _ _ hy]
    exact ih hrest

def letterWall : Pattern := day '-' ++ [mark 'T'] ++ hourMinuteSecond

/-- With any separator of the standard form. -/
def looseWall : Pattern := day '-' ++ [.oneOf ['T', 't', ' ']] ++ hourMinuteSecond

theorem letterWall_refines : List.Forall₂ Item.Refines letterWall looseWall := by
  have hseparator : (mark 'T').Refines (.oneOf ['T', 't', ' ']) := refines_oneOf (by simp)
  simp [letterWall, looseWall, day, hourMinuteSecond, hourMinute, Refines.refl, hseparator]

theorem standardWall_refines : List.Forall₂ Item.Refines standardWall looseWall := by
  simp [standardWall, looseWall, day, hourMinuteSecond, hourMinute, Refines.refl, refines_year,
    refines_number]

end Pattern

/-! The parts of a date -/

def DateTime.parts (t : DateTime) : Parts :=
  ⟨t.date.year, t.date.month, t.date.day, t.clock.hour, t.clock.minute, t.clock.shownSecond,
    t.clock.fraction, 0⟩

def OffsetDateTime.parts (d : OffsetDateTime) : Parts :=
  { d.wall.parts with offset := d.offset.minutes }

open Pattern

theorem readFrom_letterWall (t : DateTime) (hr : Item.EndsFraction r) :
    readFrom .none (t.written ++ r) letterWall = some (t.parts, r) := by
  have htext : t.written ++ r = t.date.written ++ 'T' :: (t.clock.written ++ r) := by
    simp [DateTime.written]
  have hletter (p : Parts) (cs : List Char) : readFrom p ('T' :: cs) [mark 'T'] = some (p, cs) :=
    rfl
  rw [htext, letterWall, readFrom_append, readFrom_append, readFrom_day, Option.bind_some, hletter,
    Option.bind_some, readFrom_clock _ _ rfl hr]
  rfl

/-- If the standard form reads the date, it reads what was written, and the offset is next. -/
theorem readFrom_standard (t : DateTime) (hr : Item.EndsFraction r) :
    readFrom .none (t.written ++ r) standard = none ∨
      readFrom .none (t.written ++ r) standard = Item.exactOffset.read t.parts r := by
  rw [standard_eq, readFrom_append]
  cases h : readFrom .none (t.written ++ r) standardWall with
  | none => exact .inl rfl
  | some x =>
    have hstandard := readFrom_of_refines standardWall_refines h
    have hletter := readFrom_of_refines letterWall_refines (readFrom_letterWall t hr)
    obtain rfl : x = (t.parts, r) := Option.some.inj (hstandard.symm.trans hletter)
    exact .inr (Option.bind_fun_some _)

end Sift.Calendar
