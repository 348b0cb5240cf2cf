/-!
# Dates and moments

A `Date` is a day of the calendar, a `Moment` a day with a time of day and perhaps a zone. Both are
ordered by counting: a date by the number of its day, a moment by its microsecond. Moments of two
zones count as the instants that they name, so two spellings of one instant are equal; moments
without a zone, or of one region, count by their clocks. Moments with a zone and moments without
are never comparable.

The clocks of a region are set forward and back, so that an hour is left out or comes twice. The
offset of a moment in such an hour depends on which side of the change is meant, and it is equal to
no moment of another zone, not even at the same instant.
-/

namespace Verdict

/-- A day of the calendar. -/
structure Date where
  year : Nat
  month : Nat
  day : Nat
deriving DecidableEq, Repr, Inhabited

/-- A time of day to the microsecond. -/
structure DayTime where
  hour : Nat
  minute : Nat
  second : Nat
  micro : Nat
deriving DecidableEq, Repr, Inhabited

/-- A part of the world with a clock of its own: a number that tells it from others, and how it is
written as a term. -/
structure Region where
  number : Nat
  term : String
deriving DecidableEq, Repr, Inhabited

/-- What is known of the zone of a moment. -/
inductive Zone where
  /-- The offset of every moment of the zone, in microseconds east. -/
  | fixed (offset : Int)
  /-- The offset of the moment in a region, and the `other` offset that it has on the other side of
  a change of clocks, which is the same if there is none. If an hour comes twice, `later` means its
  second pass. -/
  | region (place : Region) (offset other : Int) (later : Bool)
deriving DecidableEq, Repr, Inhabited

/-- A day and a time of day, perhaps in a zone. -/
structure Moment where
  date : Date
  time : DayTime
  zone : Option Zone
deriving DecidableEq, Repr, Inhabited

/-- Whether the year has a leap day. -/
def isLeapYear (year : Nat) : Bool :=
  year % 4 == 0 && (year % 100 != 0 || year % 400 == 0)

/-- The number of days of a month. -/
def daysInMonth (year month : Nat) : Nat :=
  match month with
  | 2 => if isLeapYear year then 29 else 28
  | 4 | 6 | 9 | 11 => 30
  | _ => 31

/-- The number of days before the first of a month. -/
def daysBeforeMonth (year month : Nat) : Nat :=
  (List.range (month - 1)).foldl (fun days m => days + daysInMonth year (m + 1)) 0

namespace Date

/-- The number of the day, counted from the first day of year one. -/
def number (d : Date) : Nat :=
  let y := d.year - 1
  y * 365 + y / 4 - y / 100 + y / 400 + daysBeforeMonth d.year d.month + d.day

/-- The day of the week, from 0 for Monday to 6 for Sunday. -/
def weekday (d : Date) : Nat := (d.number + 6) % 7

/-- Whether the day is a Saturday or a Sunday. -/
def isWeekend (d : Date) : Bool := 5 ≤ d.weekday

/-- Whether the month has the day and the year is one of four digits. -/
def Valid (d : Date) : Prop :=
  1 ≤ d.year ∧ d.year ≤ 9999 ∧ 1 ≤ d.month ∧ d.month ≤ 12 ∧
    1 ≤ d.day ∧ d.day ≤ daysInMonth d.year d.month

instance (d : Date) : Decidable d.Valid := by unfold Valid; infer_instance

end Date

/-- The microseconds since midnight. -/
def DayTime.micros (t : DayTime) : Nat :=
  ((t.hour * 60 + t.minute) * 60 + t.second) * 1000000 + t.micro

namespace Zone

/-- The offset of a moment of the zone, in microseconds east. -/
def offset : Zone → Int
  | fixed offset => offset
  | region _ offset _ _ => offset

/-- Whether the offset is the same on both sides of a change of clocks. -/
def isSettled : Zone → Bool
  | fixed _ => true
  | region _ offset other _ => offset == other

/-- Whether both have one clock: no zone, or one region. -/
def sharesClock : Option Zone → Option Zone → Bool
  | none, none => true
  | some (region place _ _ _), some (region place' _ _ _) => place == place'
  | _, _ => false

end Zone

namespace Moment

/-- The offset of the zone, if there is one. -/
def offset (m : Moment) : Option Int := m.zone.map Zone.offset

/-- Whether the zone of the moment is known. -/
def hasZone (m : Moment) : Bool := m.zone.isSome

/-- The microseconds on the moment's own clock since the day before the calendar begins. -/
def clockMicros (m : Moment) : Int := m.date.number * 86400000000 + m.time.micros

/-- The instant, counted in microseconds; without a zone that is what the clock shows. -/
def micros (m : Moment) : Int := m.clockMicros - m.offset.getD 0

/-- The count that orders the moment beside another one: what the clock shows if both have one
clock, and the instant otherwise. -/
def countBeside (m n : Moment) : Int :=
  if Zone.sharesClock m.zone n.zone then m.clockMicros else m.micros

/-- Whether the moments can be equal: they have one clock, or their offsets do not depend on the
side of a change of clocks. -/
def canEqual (m n : Moment) : Bool :=
  Zone.sharesClock m.zone n.zone || m.zone.all Zone.isSettled && n.zone.all Zone.isSettled

/-- Whether the moments mean the same. -/
def same (m n : Moment) : Bool :=
  m.hasZone == n.hasZone && m.canEqual n && m.countBeside n == n.countBeside m

end Moment

end Verdict
