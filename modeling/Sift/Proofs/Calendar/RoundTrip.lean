import Sift.Proofs.Calendar.Written

/-!
# Dates read back

Every date that is read has a regular clock, and with an offset an instant in the calendar of
universal time. Such a date is read again from what is written of it, in every year, with its
fraction, its leap second and its offset.
-/

namespace Sift.Calendar

open Pattern

variable {s : String} {p : Parts} {t : DateTime} {d : OffsetDateTime}

/-! Clocks that are read -/

/-- Only the last second of a minute is a leap second. -/
def Clock.IsRegular (c : Clock) : Prop := c.nano < 1000000000 ∨ c.second % 60 = 59

theorem Clock.ofParts?_eq_some_iff {hour minute second nano : Nat} {c : Clock} :
    Clock.ofParts? hour minute second nano = some c ↔
      (hour < 24 ∧ minute < 60 ∧ second ≤ 60 ∧ nano < 1000000000) ∧
        c.second = hour * 3600 + minute * 60 + min second 59 ∧
        c.nano = nano + if second = 60 then 1000000000 else 0 := by
  obtain ⟨s, n, hs, hn⟩ := c
  unfold Clock.ofParts?
  by_cases hleap : second = 60
  · simp only [hleap, if_true]
    split <;> simp <;> omega
  · simp only [hleap, if_false]
    split <;> simp <;> omega

theorem Clock.isRegular_of_ofParts? {hour minute second nano : Nat} {c : Clock}
    (h : Clock.ofParts? hour minute second nano = some c) : c.IsRegular := by
  obtain ⟨hin, hsecond, hnano⟩ := Clock.ofParts?_eq_some_iff.mp h
  unfold Clock.IsRegular
  by_cases hleap : second = 60
  · exact .inr (by omega)
  · rw [if_neg hleap] at hnano
    exact .inl (by omega)

theorem Clock.ofParts?_shown {c : Clock} (h : c.IsRegular) :
    Clock.ofParts? c.hour c.minute c.shownSecond c.fraction = some c := by
  have hs := c.second_lt
  have hn := c.nano_lt
  unfold Clock.IsRegular at h
  rw [Clock.ofParts?_eq_some_iff]
  unfold Clock.hour Clock.minute Clock.shownSecond Clock.fraction
  split <;> omega

theorem Clock.isRegular_midnight : Clock.midnight.IsRegular := .inl (by decide)

theorem date?_parts (t : DateTime) : t.parts.date? = some t.date :=
  dif_pos ⟨t.date.year_mem, t.date.month_mem, t.date.day_mem⟩

theorem dateTime?_parts (h : t.clock.IsRegular) : t.parts.dateTime? = some t :=
  dateTime?_eq_some_iff.mpr ⟨date?_parts t, Clock.ofParts?_shown h⟩

/-- The clock and the offset are some that are read, and the instant is in the calendar of
universal time. -/
structure OffsetDateTime.IsReadable (d : OffsetDateTime) : Prop where
  isRegular : d.wall.clock.IsRegular
  isWhole : d.offset.IsWhole
  ofWall?_eq : OffsetDateTime.ofWall? d.wall d.offset = some d

theorem offsetDateTime?_parts {d : OffsetDateTime} (h : d.IsReadable) :
    d.parts.offsetDateTime? = some d :=
  offsetDateTime?_eq_some_iff.mpr ⟨dateTime?_parts h.isRegular, h.isWhole.seconds_eq, h.ofWall?_eq⟩

theorem isReadable_of_offsetDateTime? (h : p.offsetDateTime? = some d) : d.IsReadable := by
  obtain ⟨hwall, ho, hin⟩ := offsetDateTime?_eq_some_iff.mp h
  have hregular := Clock.isRegular_of_ofParts? (dateTime?_eq_some_iff.mp hwall).2
  exact ⟨hregular, Offset.isWhole_of_seconds_eq ho, hin⟩

theorem shift?_zero (t : DateTime) : t.shift? 0 = some t := by
  obtain ⟨date, second, nano, hs, hn⟩ := t
  have hfirst : ¬ (second : Int) < 0 := by omega
  have hlast : ¬ 86400 ≤ (second : Int) := by omega
  simp [DateTime.shift?, hfirst, hlast, hs]

theorem isReadable_ofUtc (h : t.clock.IsRegular) :
    (OffsetDateTime.ofUtc t).IsReadable := by
  refine ⟨h, rfl, ?_⟩
  show (t.shift? 0).map (fun _ => OffsetDateTime.ofUtc t) = some (.ofUtc t)
  rw [shift?_zero, Option.map_some]

theorem isReadable_of_readStandard (h : readStandard s = some d) : d.IsReadable := by
  obtain ⟨p, -, hd⟩ := Option.bind_eq_some_iff.mp h
  exact isReadable_of_offsetDateTime? hd

theorem isRegular_of_readPlain (h : readPlain s = some t) : t.clock.IsRegular := by
  obtain ⟨-, -, p, -, ht | ht⟩ := exists_parts_of_plain h
  · exact Clock.isRegular_of_ofParts? (dateTime?_eq_some_iff.mp ht).2
  · obtain ⟨date, -, rfl⟩ := Option.map_eq_some_iff.mp ht
    exact Clock.isRegular_midnight

theorem isRegular_of_readDateTime (h : readDateTime s = some t) :
    t.clock.IsRegular := by
  rw [readDateTime_eq] at h
  rcases Option.or_eq_some_iff.mp h with h | ⟨-, h⟩
  · obtain ⟨d, hd, rfl⟩ := Option.map_eq_some_iff.mp h
    exact (isReadable_of_readStandard hd).isRegular
  · exact isRegular_of_readPlain h

theorem isReadable_of_readOffsetDateTime (h : readOffsetDateTime s = some d) : d.IsReadable := by
  rw [readOffsetDateTime_eq] at h
  rcases Option.or_eq_some_iff.mp h with h | ⟨-, h⟩
  · exact isReadable_of_readStandard h
  · rcases Option.or_eq_some_iff.mp h with h | ⟨-, h⟩
    · obtain ⟨-, -, p, -, hd⟩ := exists_pattern_of_findSome? h
      exact isReadable_of_offsetDateTime? hd
    · obtain ⟨t, ht, rfl⟩ := Option.map_eq_some_iff.mp h
      exact isReadable_ofUtc (isRegular_of_readDateTime ht)

/-! Round trips -/

theorem endsFraction_written (o : Offset) : Item.EndsFraction o.written := by
  unfold Offset.written
  split <;> simp [Item.EndsFraction]

theorem readStandard_date (t : DateTime) : readStandard (.ofList t.written) = none := by
  have hnone : Item.exactOffset.read t.parts [] = none := rfl
  have hstandard := readFrom_standard t Item.endsFraction_nil
  rw [List.append_nil, hnone, or_self] at hstandard
  simp [readStandard, Pattern.read, hstandard]

theorem readStandard_dateWithOffset (h : d.IsReadable) :
    readStandard (.ofList d.written) = none ∨ readStandard (.ofList d.written) = some d := by
  rcases readFrom_standard d.wall (endsFraction_written d.offset) with hs | hs
  · left
    simp [readStandard, Pattern.read, OffsetDateTime.written, hs]
  · right
    have hread : Pattern.standard.read d.written = some d.parts := by
      apply Pattern.read_eq_some_iff.mpr
      rw [OffsetDateTime.written, hs, Item.read_exactOffset _ h.isWhole]
      rfl
    rw [readStandard, String.toList_ofList, hread, Option.bind_some, offsetDateTime?_parts h]

theorem readPlain_written (h : t.clock.IsRegular) : readPlain (.ofList t.written) = some t := by
  have hwall := readFrom_letterWall t Item.endsFraction_nil
  rw [List.append_nil] at hwall
  have hread : Pattern.read letterWall t.written = some t.parts :=
    Pattern.read_eq_some_iff.mpr hwall
  have hpatterns : dateTimes = letterWall :: dateTimes.tail := rfl
  rw [readPlain, String.toList_ofList, hpatterns, List.findSome?_cons, hread, Option.bind_some,
    dateTime?_parts h]
  rfl

theorem readWithOffset_written (h : d.IsReadable) :
    readWithOffset (.ofList d.written) = some d := by
  have hwall := readFrom_letterWall d.wall (endsFraction_written d.offset)
  have hread : Pattern.read (letterWall ++ [.offset]) d.written = some d.parts := by
    apply Pattern.read_eq_some_iff.mpr
    rw [OffsetDateTime.written, readFrom_append, hwall, Option.bind_some, readFrom,
      Item.read_offset _ h.isWhole]
    rfl
  have hpatterns : offsetDateTimes = (letterWall ++ [.offset]) :: offsetDateTimes.tail := rfl
  rw [readWithOffset, String.toList_ofList, hpatterns, List.findSome?_cons, hread,
    Option.bind_some, offsetDateTime?_parts h]

theorem readDateTime_written (h : t.clock.IsRegular) :
    readDateTime (.ofList t.written) = some t := by
  rw [readDateTime_eq, readStandard_date, readPlain_written h]
  rfl

theorem readOffsetDateTime_written (h : d.IsReadable) :
    readOffsetDateTime (.ofList d.written) = some d := by
  rw [readOffsetDateTime_eq, readWithOffset_written h]
  rcases readStandard_dateWithOffset h with hs | hs
  · rw [hs]
    rfl
  · rw [hs]
    rfl

end Sift.Calendar
