import Sift.Calendar.Date

/-!
Times of day, and dates with a time, with and without an offset from universal time. A date with
offset keeps the wall clock that was written, and is compared by the instant that it names.
-/

namespace Sift.Calendar

/-- A time of day. A leap second is the last second of a minute with more than a second of
nanoseconds. -/
structure Clock where
  second : Nat
  nano : Nat
  second_lt : second < 86400
  nano_lt : nano < 2000000000
  deriving DecidableEq

namespace Clock

def midnight : Clock := ⟨0, 0, by decide, by decide⟩

/-- The second 60 is the leap second of its minute. -/
def ofParts? (hour minute second nano : Nat) : Option Clock :=
  let leap := second = 60
  let s := hour * 3600 + minute * 60 + (if leap then 59 else second)
  let n := if leap then nano + 1000000000 else nano
  if h : (hour < 24 ∧ minute < 60 ∧ second ≤ 60 ∧ nano < 1000000000) ∧
      s < 86400 ∧ n < 2000000000 then
    some ⟨s, n, h.2.1, h.2.2⟩
  else none

instance : Ord Clock := ⟨compareLex (compareOn second) (compareOn nano)⟩

def hour (c : Clock) : Nat := c.second / 3600

def minute (c : Clock) : Nat := c.second / 60 % 60

/-- The second as it is written, 60 for a leap second. -/
def shownSecond (c : Clock) : Nat := c.second % 60 + c.nano / 1000000000

def fraction (c : Clock) : Nat := c.nano % 1000000000

end Clock

structure DateTime where
  date : Date
  clock : Clock
  deriving DecidableEq

namespace DateTime

instance : Ord DateTime := ⟨compareLex (compareOn date) (compareOn clock)⟩

def atMidnight (d : Date) : DateTime := ⟨d, .midnight⟩

def epoch : DateTime := atMidnight .epoch

/-- The seconds since the day before the first one of the year one. -/
def seconds (t : DateTime) : Int := t.date.number * 86400 + t.clock.second

/-- Moves the clock by less than a day; there is no date outside the calendar to move to. -/
def shift? (t : DateTime) (seconds : Int) : Option DateTime :=
  let s := t.clock.second + seconds
  let moved (date : Date) (s : Int) : Option DateTime :=
    if h : s.toNat < 86400 then some ⟨date, s.toNat, t.clock.nano, h, t.clock.nano_lt⟩ else none
  if s < 0 then t.date.previous?.bind (moved · (s + 86400))
  else if 86400 ≤ s then t.date.next?.bind (moved · (s - 86400))
  else moved t.date s

end DateTime

/-- Seconds east of universal time, less than a day. -/
structure Offset where
  seconds : Int
  seconds_mem : seconds.natAbs < 86400
  deriving DecidableEq

namespace Offset

def utc : Offset := ⟨0, by decide⟩

def ofMinutes? (minutes : Int) : Option Offset :=
  if h : (minutes * 60).natAbs < 86400 then some ⟨minutes * 60, h⟩ else none

end Offset

/-- A wall clock and how far it is ahead of universal time. -/
structure OffsetDateTime where
  wall : DateTime
  offset : Offset
  deriving DecidableEq

namespace OffsetDateTime

def epoch : OffsetDateTime := ⟨.epoch, .utc⟩

/-- The seconds of the instant; leap seconds keep their nanoseconds apart. -/
def seconds (t : OffsetDateTime) : Int := t.wall.seconds - t.offset.seconds

def nano (t : OffsetDateTime) : Nat := t.wall.clock.nano

/-- The order of instants, whatever the offsets. -/
instance : Ord OffsetDateTime := ⟨compareLex (compareOn seconds) (compareOn nano)⟩

/-- The same instant, whatever the offsets. -/
def sameInstant (t u : OffsetDateTime) : Bool := t.seconds == u.seconds && t.nano == u.nano

/-- A wall clock with an offset, if the instant is in the calendar of universal time. -/
def ofWall? (wall : DateTime) (offset : Offset) : Option OffsetDateTime :=
  (wall.shift? (-offset.seconds)).map fun _ => ⟨wall, offset⟩

def ofUtc (t : DateTime) : OffsetDateTime := ⟨t, .utc⟩

/-- The same instant on the clock of universal time. -/
def toUtc? (t : OffsetDateTime) : Option OffsetDateTime :=
  (t.wall.shift? (-t.offset.seconds)).map ofUtc

end OffsetDateTime

end Sift.Calendar
