import Sift.Proofs.Calendar.Pattern

/-!
# Dates with and without an offset

A text that is read as a date is read as a date with offset too, with the same wall clock. In the
standard form the text ends in the offset that it is read with; in any other form it has none, and
is taken as universal time, since no pattern with an offset is of the same text.
-/

namespace Sift.Calendar

variable {s : String} {cs r : List Char} {p q : Parts} {t : DateTime} {d : OffsetDateTime}

/-! The readers, form by form -/

def readStandard (s : String) : Option OffsetDateTime :=
  (Pattern.standard.read s.toList).bind (·.offsetDateTime?)

def readWithOffset (s : String) : Option OffsetDateTime :=
  Pattern.offsetDateTimes.findSome? fun p => (p.read s.toList).bind (·.offsetDateTime?)

def readPlain (s : String) : Option DateTime :=
  (Pattern.dateTimes.findSome? fun p => (p.read s.toList).bind (·.dateTime?)).or
    ((Pattern.days.findSome? fun p => (p.read s.toList).bind (·.date?)).map .atMidnight)

theorem readDateTime_eq (s : String) :
    readDateTime s = ((readStandard s).map (·.wall)).or (readPlain s) := by
  simp only [readDateTime, readStandard, readPlain, Option.orElse_eq_orElse, Option.orElse_eq_or]

theorem readOffsetDateTime_eq (s : String) :
    readOffsetDateTime s =
      (readStandard s).or ((readWithOffset s).or ((readDateTime s).map .ofUtc)) := by
  simp only [readOffsetDateTime, readStandard, readWithOffset, Option.orElse_eq_orElse,
    Option.orElse_eq_or]

theorem exists_pattern_of_findSome? {α : Type} {patterns : List Pattern} {f : Parts → Option α}
    {a : α} (h : patterns.findSome? (fun is => (is.read cs).bind f) = some a) :
    ∃ is ∈ patterns, ∃ p, is.read cs = some p ∧ f p = some a := by
  obtain ⟨is, hm, hr⟩ := List.exists_of_findSome?_eq_some h
  obtain ⟨p, hp, hf⟩ := Option.bind_eq_some_iff.mp hr
  exact ⟨is, hm, p, hp, hf⟩

theorem exists_parts_of_plain (h : readPlain s = some t) :
    ∃ is ∈ Pattern.dateTimes ++ Pattern.days, ∃ p, is.read s.toList = some p ∧
      (p.dateTime? = some t ∨ p.date?.map .atMidnight = some t) := by
  rcases Option.or_eq_some_iff.mp h with h | ⟨-, h⟩
  · obtain ⟨is, hm, p, hp, ht⟩ := exists_pattern_of_findSome? h
    exact ⟨is, List.mem_append_left _ hm, p, hp, .inl ht⟩
  · obtain ⟨date, hd, rfl⟩ := Option.map_eq_some_iff.mp h
    obtain ⟨is, hm, p, hp, ht⟩ := exists_pattern_of_findSome? hd
    exact ⟨is, List.mem_append_right _ hm, p, hp, .inr (by rw [ht]; rfl)⟩

theorem readWithOffset_of_plain (h : readPlain s = some t) : readWithOffset s = none := by
  obtain ⟨is, hi, p, hp, -⟩ := exists_parts_of_plain h
  apply List.findSome?_eq_none_iff.mpr
  intro js hj
  cases hq : js.read s.toList with
  | none => rfl
  | some q =>
    have hclash := Pattern.clash_of_mem hi hj s.toList (Pattern.rest?_of_read hp)
    exact absurd (Pattern.rest?_of_read hq) hclash

/-! Offsets -/

namespace Offset

variable {o : Offset} {n : Int}

/-- The whole minutes of an offset. -/
def minutes (o : Offset) : Int := o.seconds / 60

/-- An offset of whole minutes, as every one is that is read. -/
def IsWhole (o : Offset) : Prop := o.seconds % 60 = 0

theorem IsWhole.seconds_eq (h : o.IsWhole) : o.seconds = o.minutes * 60 :=
  (Int.ediv_mul_cancel_of_emod_eq_zero h).symm

theorem isWhole_of_seconds_eq (h : o.seconds = n * 60) : o.IsWhole := by
  rw [IsWhole, h, Int.mul_emod_left]

theorem ofMinutes?_eq_some_iff : ofMinutes? n = some o ↔ o.seconds = n * 60 := by
  obtain ⟨m, hm⟩ := o
  unfold ofMinutes?
  split
  · simp [eq_comm]
  · rename_i hn
    constructor
    · exact nofun
    · intro he
      exact absurd (he ▸ hm) hn

end Offset

/-! Parts of a date with offset -/

theorem dateTime?_eq_some_iff :
    p.dateTime? = some t ↔ p.date? = some t.date ∧
      Clock.ofParts? p.hour p.minute p.second p.nano = some t.clock := by
  unfold Parts.dateTime?
  cases p.date? with
  | none => simp
  | some date =>
    cases Clock.ofParts? p.hour p.minute p.second p.nano with
    | none => simp
    | some clock =>
      obtain ⟨date', clock'⟩ := t
      simp

theorem wall_of_ofWall? {o : Offset} (h : OffsetDateTime.ofWall? t o = some d) :
    d.wall = t ∧ d.offset = o := by
  obtain ⟨_, -, rfl⟩ := Option.map_eq_some_iff.mp h
  exact ⟨rfl, rfl⟩

theorem offsetDateTime?_eq_some_iff :
    p.offsetDateTime? = some d ↔ p.dateTime? = some d.wall ∧ d.offset.seconds = p.offset * 60 ∧
      OffsetDateTime.ofWall? d.wall d.offset = some d := by
  unfold Parts.offsetDateTime?
  constructor
  · intro h
    obtain ⟨wall, hw, h⟩ := Option.bind_eq_some_iff.mp h
    obtain ⟨o, ho, h⟩ := Option.bind_eq_some_iff.mp h
    obtain ⟨rfl, rfl⟩ := wall_of_ofWall? h
    exact ⟨hw, Offset.ofMinutes?_eq_some_iff.mp ho, h⟩
  · intro h
    obtain ⟨hw, ho, h⟩ := h
    rw [hw, Offset.ofMinutes?_eq_some_iff.mpr ho]
    exact h

/-! The offset at the end of a text -/

def IsPair (ds : List Char) : Prop := ds.length = 2 ∧ Number.IsDigits ds

/-- The letter of universal time, or a sign with hours and minutes; and the minutes east of it. -/
inductive OffsetMark : List Char → Int → Prop
  | letter {c : Char} (hc : c = 'Z' ∨ c = 'z') : OffsetMark [c] 0
  | east {hours minutes : List Char} (hh : IsPair hours) (hm : IsPair minutes) :
    OffsetMark ('+' :: hours ++ ':' :: minutes)
      (Number.ofDigits hours * 60 + Number.ofDigits minutes)
  | west {sign : Char} {hours minutes : List Char} (hs : sign = '-' ∨ sign = '\u2212')
    (hh : IsPair hours) (hm : IsPair minutes) :
    OffsetMark (sign :: hours ++ ':' :: minutes)
      (-(Number.ofDigits hours * 60 + Number.ofDigits minutes))

variable (s) in
/-- The text ends in the mark of this offset. -/
def CarriesOffset (o : Offset) : Prop :=
  ∃ before mark n, s.toList = before ++ mark ∧ OffsetMark mark n ∧ o.seconds = n * 60

theorem exists_pair {n : Nat} (h : Item.digits 2 2 cs = some (n, r)) :
    ∃ ds, IsPair ds ∧ cs = ds ++ r ∧ n = Number.ofDigits ds := by
  obtain ⟨ds, hs, hn, hd, hleast, hmost⟩ := Item.exists_digits h
  exact ⟨ds, ⟨by omega, hd⟩, hs, hn⟩

theorem offsetMark_of_signedOffset {n : Int} (h : Item.signedOffset Item.colon cs = some (n, [])) :
    OffsetMark cs n := by
  obtain ⟨sign, after, k, rfl, hk, hn⟩ := Item.exists_signedOffset h
  obtain ⟨hours, minutes, r₁, r₂, h₁, h₂, h₃, rfl⟩ := Item.exists_hoursMinutes hk
  obtain ⟨ds, hds, rfl, rfl⟩ := exists_pair h₁
  obtain ⟨es, hes, hr, rfl⟩ := exists_pair h₃
  rw [Item.colon_eq_some_iff.mp h₂, hr, List.append_nil]
  rcases hn with ⟨rfl, rfl⟩ | ⟨hs, rfl⟩
  · exact .east hds hes
  · exact .west hs hds hes

theorem offsetMark_of_exactOffset (h : Item.exactOffset.read p cs = some (q, []))
    (hp : p.offset = 0) : OffsetMark cs q.offset := by
  simp only [Item.read] at h
  split at h
  · cases h
    rw [hp]
    exact .letter (.inl rfl)
  · cases h
    rw [hp]
    exact .letter (.inr rfl)
  · obtain ⟨⟨n, r⟩, hn, he⟩ := Option.map_eq_some_iff.mp h
    cases he
    exact offsetMark_of_signedOffset hn

def Item.setsOffset : Item → Bool
  | exactOffset => true
  | offset => true
  | _ => false

theorem Item.offset_read {i : Item} (h : i.read p cs = some (q, r)) (hi : i.setsOffset = false) :
    q.offset = p.offset := by
  cases i with
  | exactOffset => cases hi
  | offset => cases hi
  | oneOf allowed =>
    simp only [Item.read] at h
    split at h
    · split at h <;> cases h
      rfl
    · cases h
  | blanks =>
    cases h
    rfl
  | fraction =>
    simp only [Item.read] at h
    split at h
    · obtain ⟨a, -, he⟩ := Option.map_eq_some_iff.mp h
      cases he
      rfl
    · cases h
      rfl
  | exactYear | year =>
    obtain ⟨a, -, he⟩ := Option.map_eq_some_iff.mp h
    cases he
    rfl
  | exact c | number c =>
    obtain ⟨a, -, he⟩ := Option.map_eq_some_iff.mp h
    cases he
    cases c <;> rfl

theorem offset_readFrom {is : Pattern} (h : Pattern.readFrom p cs is = some (q, r))
    (hi : ∀ i ∈ is, i.setsOffset = false) : q.offset = p.offset := by
  induction is generalizing p cs with
  | nil =>
    cases h
    rfl
  | cons i is ih =>
    rw [List.forall_mem_cons] at hi
    obtain ⟨⟨p', r'⟩, hr, hrest⟩ := Option.bind_eq_some_iff.mp h
    rw [ih hrest hi.2, Item.offset_read hr hi.1]

/-- The standard form up to the offset. -/
def Pattern.standardWall : Pattern :=
  [.exactYear, mark '-', .exact .month, mark '-', .exact .day, .oneOf ['T', 't', ' '],
   .exact .hour, mark ':', .exact .minute, mark ':', .exact .second, .fraction]

theorem Pattern.standard_eq : standard = standardWall ++ [.exactOffset] := rfl

theorem Pattern.read_eq_some_iff {is : Pattern} :
    is.read cs = some p ↔ readFrom .none cs is = some (p, []) := by
  unfold read
  split <;> simp_all

theorem carriesOffset_of_standard (h : readStandard s = some d) : CarriesOffset s d.offset := by
  obtain ⟨p, hp, hd⟩ := Option.bind_eq_some_iff.mp h
  rw [Pattern.read_eq_some_iff, Pattern.standard_eq, Pattern.readFrom_append] at hp
  obtain ⟨⟨q, rest⟩, hwall, hp⟩ := Option.bind_eq_some_iff.mp hp
  have hzero : q.offset = 0 := offset_readFrom hwall (by decide)
  obtain ⟨before, hbefore⟩ := Pattern.readFrom_suffix hwall
  have hmark : OffsetMark rest p.offset := by
    obtain ⟨⟨p', r⟩, hr, hend⟩ := Option.bind_eq_some_iff.mp hp
    cases hend
    exact offsetMark_of_exactOffset hr hzero
  exact ⟨before, rest, p.offset, hbefore.symm, hmark, (offsetDateTime?_eq_some_iff.mp hd).2.1⟩

/-! A date read in both ways -/

theorem readOffsetDateTime_of_readDateTime (h : readDateTime s = some t) :
    ∃ d, readOffsetDateTime s = some d ∧ d.wall = t ∧
      (d.offset = .utc ∨ CarriesOffset s d.offset) := by
  rw [readDateTime_eq] at h
  rcases Option.or_eq_some_iff.mp h with hs | ⟨hs, hplain⟩
  · obtain ⟨d, hd, rfl⟩ := Option.map_eq_some_iff.mp hs
    refine ⟨d, ?_, rfl, .inr (carriesOffset_of_standard hd)⟩
    rw [readOffsetDateTime_eq, hd, Option.some_or]
  · refine ⟨.ofUtc t, ?_, rfl, .inl rfl⟩
    rw [readOffsetDateTime_eq, Option.map_eq_none_iff.mp hs, readWithOffset_of_plain hplain,
      readDateTime_eq, h]
    rfl

end Sift.Calendar
