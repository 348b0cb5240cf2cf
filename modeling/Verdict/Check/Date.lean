import Verdict.Check

/-!
# Checks for dates

Dates are compared with dates and moments with moments of their own kind. What lies in the future
is asked of a clock: one that the caller gives, or a reading of the wall clock, which tells a value
the time in the value's own terms.
-/

namespace Verdict

/-- Where the present time is taken from. -/
inductive Clock where
  /-- A clock that always shows the value. -/
  | fixed (shown : Value)
  /-- A reading of the wall clock: the time that it shows without a zone and at offset zero, and
  the time in each region. -/
  | wall (now : Moment) (inRegion : Region → Moment)
deriving Inhabited

/-- The present time in the terms of a value: in its zone or without one for a moment, and the day
for all else. -/
def Clock.now : Clock → Value → Value
  | .fixed shown, _ => shown
  | .wall now inRegion, .moment m =>
    match m.zone with
    | none => .moment { now with zone := none }
    -- at a fixed offset only the instant counts, so every offset will do
    | some (.fixed _) => .moment { now with zone := some (.fixed 0) }
    | some (.region place _ _ _) => .moment (inRegion place)
  | .wall now _, _ => .date now.date

/-- The checks for dates and moments, with the arguments that they are asked for. -/
inductive DateCheck where
  | before (reference : Value)
  | after (reference : Value)
  | inRange (minimum maximum : Value)
  | future (clock : Clock)
  | past (clock : Clock)
  | isWeekday
  | isWeekend
deriving Inhabited

namespace DateCheck

/-- A check of the order against a date that has to be given. -/
def orderCheck (code : Code) (reference : Value) (r : Relation) : Except Fault Check := do
  requireLimit Parameter.referenceDate reference false
  return ⟨code, .reference Parameter.referenceDate reference false, true,
    fun v => v.related r reference, fun _ => []⟩

/-- The check, if its arguments are acceptable. -/
def build : DateCheck → Except Fault Check
  | before reference => orderCheck .before reference .below
  | after reference => orderCheck .after reference .above
  | inRange minimum maximum =>
    Check.accept ⟨.dateTimeInRange,
      .bounds Parameter.minDate minimum Parameter.maxDate maximum false, true,
      Value.within minimum maximum, fun _ => []⟩
  | future clock => .ok (Check.flag .future fun v => v.related .above (clock.now v))
  | past clock => .ok (Check.flag .past fun v => v.related .below (clock.now v))
  | isWeekday =>
    .ok ⟨.isWeekday, .flag, true, fun v => v.weekday?.map fun d => decide (d < 5),
      fun _ => [(Parameter.weekdays, .text "Monday-Friday")]⟩
  | isWeekend =>
    .ok ⟨.isWeekend, .flag, true, fun v => v.weekday?.map fun d => decide (5 ≤ d),
      fun _ => [(Parameter.weekendDays, .text "Saturday-Sunday")]⟩

end DateCheck

end Verdict
