import Sift.Calendar.Pattern
import Sift.Proofs.Number.Digits
import Sift.Proofs.Text.Trim

/-!
# What patterns leave unread

An item takes a stretch off the front of a text, and which stretch does not depend on what was read
before. Two patterns clash if no text is of both. They clash if one of them goes on where the other
has come to an end, or if they part at different marks.
-/

namespace Sift.Calendar

variable {p q : Parts} {cs r : List Char} {i : Item}

namespace Item

/-! Rows of digits -/

theorem exists_digits {least most n : Nat} (h : digits least most cs = some (n, r)) :
    ∃ ds, cs = ds ++ r ∧ n = Number.ofDigits ds ∧ Number.IsDigits ds ∧
      least ≤ ds.length ∧ ds.length ≤ most := by
  simp only [digits] at h
  split at h
  · cases h
  · rename_i hlen
    cases h
    have hprefix : (cs.take most).takeWhile Char.isDigit <+: cs :=
      (List.takeWhile_prefix _).trans (List.take_prefix most cs)
    have hmost : ((cs.take most).takeWhile Char.isDigit).length ≤ most := by
      have h₁ := (List.takeWhile_prefix (l := cs.take most) Char.isDigit).length_le
      have h₂ := List.length_take_le most cs
      omega
    refine ⟨_, ?_, rfl, fun c hc => List.mem_takeWhile_imp hc, by omega, hmost⟩
    exact (List.prefix_iff_eq_append.mp hprefix).symm

theorem digits_append {least most : Nat} {ds : List Char} (hd : Number.IsDigits ds)
    (hleast : least ≤ ds.length) (hmost : ds.length ≤ most)
    (hr : ds.length = most ∨ ∀ c ∈ r.head?, c.isDigit = false) :
    digits least most (ds ++ r) = some (Number.ofDigits ds, r) := by
  have hrest : (r.take (most - ds.length)).takeWhile Char.isDigit = [] := by
    rcases hr with hr | hr
    · simp [hr]
    · cases r with
      | nil => simp
      | cons c r =>
        have hc : c.isDigit = false := hr c rfl
        cases most - ds.length with
        | zero => rfl
        | succ k => simp [hc]
  have htake : ((ds ++ r).take most).takeWhile Char.isDigit = ds := by
    rw [List.take_append, List.take_of_length_le hmost, List.takeWhile_append_of_pos hd, hrest,
      List.append_nil]
  unfold digits
  rw [htake]
  simp [Nat.not_lt.mpr hleast]

theorem digits_suffix {least most n : Nat} (h : digits least most cs = some (n, r)) : r <:+ cs := by
  obtain ⟨ds, rfl, -⟩ := exists_digits h
  exact List.suffix_append ds r

/-! What an item leaves -/

theorem signedYear_suffix {n : Int} (h : signedYear cs = some (n, r)) : r <:+ cs := by
  unfold signedYear at h
  split at h
  all_goals
    obtain ⟨a, ha, he⟩ := Option.map_eq_some_iff.mp h
    cases he
  · exact (digits_suffix ha).trans (List.suffix_cons _ _)
  · exact (digits_suffix ha).trans (List.suffix_cons _ _)
  · exact digits_suffix ha

theorem nanoseconds_suffix {n : Nat} (h : nanoseconds cs = some (n, r)) : r <:+ cs := by
  simp only [nanoseconds] at h
  split at h
  · cases h
  · cases h
    exact List.dropWhile_suffix _

theorem exists_hoursMinutes {gap : List Char → Option (List Char)} {n : Nat}
    (h : hoursMinutes gap cs = some (n, r)) : ∃ hours minutes after before,
      digits 2 2 cs = some (hours, after) ∧ gap after = some before ∧
        digits 2 2 before = some (minutes, r) ∧ n = hours * 60 + minutes := by
  unfold hoursMinutes at h
  obtain ⟨⟨hours, after⟩, hh, h⟩ := Option.bind_eq_some_iff.mp h
  obtain ⟨before, hg, h⟩ := Option.bind_eq_some_iff.mp h
  obtain ⟨⟨minutes, rest⟩, hm, h⟩ := Option.bind_eq_some_iff.mp h
  dsimp only at h
  split at h
  · cases h
    exact ⟨hours, minutes, after, before, hh, hg, hm, rfl⟩
  · cases h

theorem exists_signedOffset {gap : List Char → Option (List Char)} {n : Int}
    (h : signedOffset gap cs = some (n, r)) : ∃ sign after minutes, cs = sign :: after ∧
      hoursMinutes gap after = some (minutes, r) ∧
        ((sign = '+' ∧ n = minutes) ∨ ((sign = '-' ∨ sign = '\u2212') ∧ n = -minutes)) := by
  unfold signedOffset at h
  split at h
  · obtain ⟨⟨k, r'⟩, ha, he⟩ := Option.map_eq_some_iff.mp h
    cases he
    exact ⟨_, _, k, rfl, ha, .inl ⟨rfl, rfl⟩⟩
  · obtain ⟨⟨k, r'⟩, ha, he⟩ := Option.map_eq_some_iff.mp h
    cases he
    exact ⟨_, _, k, rfl, ha, .inr ⟨.inl rfl, rfl⟩⟩
  · obtain ⟨⟨k, r'⟩, ha, he⟩ := Option.map_eq_some_iff.mp h
    cases he
    exact ⟨_, _, k, rfl, ha, .inr ⟨.inr rfl, rfl⟩⟩
  · cases h

theorem signedOffset_suffix {gap : List Char → Option (List Char)}
    (hgap : ∀ cs r, gap cs = some r → r <:+ cs) {n : Int}
    (h : signedOffset gap cs = some (n, r)) : r <:+ cs := by
  obtain ⟨sign, after, k, rfl, hk, -⟩ := exists_signedOffset h
  obtain ⟨hours, minutes, r₁, r₂, h₁, h₂, h₃, -⟩ := exists_hoursMinutes hk
  have hafter : r <:+ after := ((digits_suffix h₃).trans (hgap _ _ h₂)).trans (digits_suffix h₁)
  exact hafter.trans (List.suffix_cons sign after)

theorem colon_eq_some_iff : colon cs = some r ↔ cs = ':' :: r := by
  unfold colon
  split <;> simp_all [eq_comm]

theorem colonsAndBlanks_suffix (h : colonsAndBlanks cs = some r) : r <:+ cs := by
  cases h
  exact List.dropWhile_suffix _

/-- An item leaves an end of the text. -/
theorem read_suffix (h : i.read p cs = some (q, r)) : r <:+ cs := by
  cases i with
  | oneOf allowed =>
    cases cs with
    | nil => cases h
    | cons c cs =>
      simp only [read] at h
      split at h <;> cases h
      exact List.suffix_cons c _
  | blanks =>
    cases h
    exact Text.dropBlanks_suffix cs
  | exactYear | exact c =>
    obtain ⟨a, ha, he⟩ := Option.map_eq_some_iff.mp h
    cases he
    exact digits_suffix ha
  | year =>
    obtain ⟨a, ha, he⟩ := Option.map_eq_some_iff.mp h
    cases he
    exact (signedYear_suffix ha).trans (Text.dropBlanks_suffix cs)
  | number c =>
    obtain ⟨a, ha, he⟩ := Option.map_eq_some_iff.mp h
    cases he
    exact (digits_suffix ha).trans (Text.dropBlanks_suffix cs)
  | fraction =>
    simp only [read] at h
    split at h
    · obtain ⟨a, ha, he⟩ := Option.map_eq_some_iff.mp h
      cases he
      exact (nanoseconds_suffix ha).trans (List.suffix_cons _ _)
    · cases h
      exact List.suffix_rfl
  | exactOffset =>
    simp only [read] at h
    split at h
    · cases h
      exact List.suffix_cons _ _
    · cases h
      exact List.suffix_cons _ _
    · obtain ⟨a, ha, he⟩ := Option.map_eq_some_iff.mp h
      cases he
      apply signedOffset_suffix _ ha
      intro cs r hc
      rw [colon_eq_some_iff.mp hc]
      exact List.suffix_cons _ r
  | offset =>
    obtain ⟨a, ha, he⟩ := Option.map_eq_some_iff.mp h
    cases he
    have hsigned := signedOffset_suffix (fun _ _ => colonsAndBlanks_suffix) ha
    exact hsigned.trans (Text.dropBlanks_suffix cs)

variable (i cs) in
/-- What the item leaves of a text. -/
def rest? : Option (List Char) := (i.read .none cs).map Prod.snd

theorem map_snd_read (p : Parts) (i : Item) (cs : List Char) :
    (i.read p cs).map Prod.snd = i.rest? cs := by
  unfold rest?
  cases i with
  | oneOf allowed =>
    cases cs with
    | nil => rfl
    | cons c cs =>
      simp only [read]
      split <;> rfl
  | blanks => rfl
  | fraction | exactOffset =>
    simp only [read]
    split <;> simp [Function.comp_def]
  | _ => simp [read, Function.comp_def]

end Item

namespace Pattern

variable {is js : Pattern}

theorem readFrom_append (p : Parts) (cs : List Char) (is js : Pattern) :
    readFrom p cs (is ++ js) = (readFrom p cs is).bind fun x => readFrom x.1 x.2 js := by
  induction is generalizing p cs with
  | nil => rfl
  | cons i is ih =>
    simp only [List.cons_append, readFrom, Option.bind_assoc]
    exact Option.bind_congr fun x _ => ih x.1 x.2

theorem readFrom_suffix (h : readFrom p cs is = some (q, r)) : r <:+ cs := by
  induction is generalizing p cs with
  | nil =>
    cases h
    exact List.suffix_rfl
  | cons i is ih =>
    obtain ⟨⟨p', r'⟩, hi, hrest⟩ := Option.bind_eq_some_iff.mp h
    exact (ih hrest).trans (Item.read_suffix hi)

/-- What the pattern leaves of a text. -/
def rest? : Pattern → List Char → Option (List Char)
  | [], cs => some cs
  | i :: is, cs => (i.rest? cs).bind (rest? is)

theorem map_snd_readFrom (p : Parts) (cs : List Char) (is : Pattern) :
    (readFrom p cs is).map Prod.snd = is.rest? cs := by
  induction is generalizing p cs with
  | nil => rfl
  | cons i is ih =>
    rw [readFrom, rest?, ← Item.map_snd_read p i cs, Option.map_bind, Option.bind_map]
    exact Option.bind_congr fun x _ => ih x.1 x.2

theorem rest?_append (is js : Pattern) (cs : List Char) :
    (is ++ js).rest? cs = (is.rest? cs).bind js.rest? := by
  induction is generalizing cs with
  | nil => rfl
  | cons i is ih =>
    rw [List.cons_append, rest?, rest?, Option.bind_assoc]
    exact Option.bind_congr fun r _ => ih r

theorem rest?_of_read (h : is.read cs = some p) : is.rest? cs = some [] := by
  unfold read at h
  split at h
  · rename_i q hq
    rw [← map_snd_readFrom .none, hq]
    rfl
  · cases h

/-- No text is of both patterns. -/
def Clash (is js : Pattern) : Prop := ∀ cs, is.rest? cs = some [] → js.rest? cs ≠ some []

theorem Clash.symm (h : Clash is js) : Clash js is := fun cs hj hi => h cs hi hj

theorem Clash.append_left (pre : Pattern) (h : Clash is js) : Clash (pre ++ is) (pre ++ js) := by
  intro cs hi hj
  rw [rest?_append] at hi hj
  obtain ⟨r, hr, hi⟩ := Option.bind_eq_some_iff.mp hi
  rw [hr] at hj
  exact h r hi hj

/-- A pattern that goes on has to find something there. -/
theorem clash_append (is js : Pattern) (h : js.rest? [] = none) : Clash is (is ++ js) := by
  intro cs hi hj
  rw [rest?_append, hi, Option.bind_some, h] at hj
  cases hj

theorem rest?_mark (c : Char) (is : Pattern) :
    rest? (mark c :: is) cs = some [] ↔ ∃ r, cs = c :: r ∧ is.rest? r = some [] := by
  cases cs with
  | nil => simp [rest?, Item.rest?, Item.read, mark]
  | cons d cs =>
    by_cases hd : d = c
    · simp [rest?, Item.rest?, Item.read, mark, hd]
    · simp [rest?, Item.rest?, Item.read, mark, hd]

theorem clash_marks {c d : Char} (h : c ≠ d) (is js : Pattern) :
    Clash (mark c :: is) (mark d :: js) := by
  intro cs hi hj
  obtain ⟨r, rfl, -⟩ := (rest?_mark c is).mp hi
  obtain ⟨r', he, -⟩ := (rest?_mark d js).mp hj
  cases he
  exact h rfl

/-- Behind blanks a number does not begin with a letter. -/
theorem clash_mark_number {c : Char} (hb : Text.isBlank c = false) (hd : c.isDigit = false)
    (o : Component) (is js : Pattern) : Clash (mark c :: is) (.blanks :: .number o :: js) := by
  intro cs hi hj
  obtain ⟨r, rfl, -⟩ := (rest?_mark c is).mp hi
  have hkeep : Text.dropBlanks (c :: r) = c :: r := List.dropWhile_cons_of_neg (by simp [hb])
  have hnone : Item.digits 1 2 (c :: r) = none := by simp [Item.digits, hd]
  simp [rest?, Item.rest?, Item.read, hkeep, hnone] at hj

/-! The patterns of dates -/

theorem clash_slash_dash (is js : Pattern) : Clash (day '/' ++ is) (day '-' ++ js) :=
  (clash_marks (by decide) _ _).append_left [.year]

theorem clash_letter_blanks (is js : Pattern) :
    Clash (day '-' ++ ([mark 'T'] ++ is)) (day '-' ++ ([.blanks] ++ (hourMinute ++ js))) :=
  (clash_mark_number (by decide) (by decide) .hour _ _).append_left (day '-')

theorem clash_letter_offset (hi : is ∈ dateTimes ++ days) :
    Clash is (day '-' ++ [mark 'T'] ++ hourMinuteSecond ++ [.offset]) := by
  simp only [dateTimes, days, List.cons_append, List.nil_append, List.mem_cons, List.not_mem_nil,
    or_false] at hi
  rcases hi with rfl | rfl | rfl | rfl | rfl | rfl
  · exact clash_append _ [.offset] rfl
  · exact (clash_letter_blanks _ _).symm
  · exact clash_append (day '-' ++ [mark 'T'] ++ hourMinute)
      [mark ':', .number .second, .fraction, .offset] rfl
  · exact (clash_letter_blanks _ []).symm
  · rw [List.append_assoc, List.append_assoc]
    exact clash_append (day '-') _ rfl
  · exact clash_slash_dash [] _

theorem clash_blanks_offset (hi : is ∈ dateTimes ++ days) :
    Clash is (day '-' ++ [.blanks] ++ hourMinuteSecond ++ [.blanks, .offset]) := by
  simp only [dateTimes, days, List.cons_append, List.nil_append, List.mem_cons, List.not_mem_nil,
    or_false] at hi
  rcases hi with rfl | rfl | rfl | rfl | rfl | rfl
  · exact clash_letter_blanks _ _
  · exact clash_append _ [.blanks, .offset] rfl
  · exact clash_letter_blanks _ _
  · exact clash_append (day '-' ++ [.blanks] ++ hourMinute)
      [mark ':', .number .second, .fraction, .blanks, .offset] rfl
  · rw [List.append_assoc, List.append_assoc]
    exact clash_append (day '-') _ rfl
  · exact clash_slash_dash [] _

/-- A text of a pattern without an offset is of no pattern with one. -/
theorem clash_of_mem (hi : is ∈ dateTimes ++ days) (hj : js ∈ offsetDateTimes) : Clash is js := by
  simp only [offsetDateTimes, List.mem_cons, List.not_mem_nil, or_false] at hj
  rcases hj with rfl | rfl
  · exact clash_letter_offset hi
  · exact clash_blanks_offset hi

end Pattern

end Sift.Calendar
