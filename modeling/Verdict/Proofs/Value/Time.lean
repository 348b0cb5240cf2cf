import Verdict.Proofs.Calendar.Order
import Verdict.Proofs.Value.Equality
import Verdict.Proofs.Value.Order
import Verdict.Proofs.Value.Scale

/-!
# The order of dates and moments

Dates stand on one scale, moments with a zone on another one and moments without on a third. Two
values of one scale have a number each beside the other: of days, or of microseconds, which are
those that the clocks show for moments without a zone or of one region, and those of the instants
for all others. All questions of order are questions about these two numbers
(`related_of_scale?_eq`), and for what the calendar has, the lower number is the earlier day, clock
or instant (`count_lt_iff`).
Anything else has no order with a date or a moment, on whichever side it stands
(`related_of_scale?_ne`).

To mean the same is to have the same number, but for moments of two zones of which one is a region
and has another offset on the other side of a change of clocks (`equals_of_scale?_eq`). They never
mean the same, though they may be the same instant; then they are `Apart`.
-/

namespace Verdict.Value

/-- Whether the value is a date or a moment. -/
def isTime : Value → Bool
  | .date _ | .moment _ => true
  | _ => false

/-- The number of a date or a moment beside another one. -/
def count : Value → Value → Int
  | .date d, _ => d.number
  | .moment m, .moment n => m.countBeside n
  | _, _ => 0

/-- Moments that are the same instant but cannot be equal. -/
def Apart : Value → Value → Prop
  | .moment m, .moment n => m.micros = n.micros ∧ m.canEqual n = false
  | _, _ => False

variable {r v : Value}

theorem isNull_of_isTime (h : r.isTime = true) : r.isNull = false := by
  cases r with
  | date _ | moment _ => rfl
  | _ => cases h

theorem isScalar_of_isTime (h : r.isTime = true) : r.isScalar = true := by
  cases r with
  | date _ | moment _ => rfl
  | _ => cases h

/-- What stands on the scale of a date is a date, and on that of a moment a moment, which has a zone
if that one has. -/
theorem of_scale?_eq (hr : r.isTime = true) (h : v.scale? = r.scale?) :
    (∃ d e, v = .date d ∧ r = .date e) ∨
      ∃ m n, v = .moment m ∧ r = .moment n ∧ m.hasZone = n.hasZone := by
  cases r with
  | date e =>
    cases v with
    | date d => exact .inl ⟨d, e, rfl, rfl⟩
    | _ => cases h
  | moment n =>
    cases v with
    | moment m => exact .inr ⟨m, n, rfl, rfl, Scale.moments.inj (Option.some.inj h)⟩
    | _ => cases h
  | _ => cases hr

theorem isTime_of_scale?_eq (hr : r.isTime = true) (h : v.scale? = r.scale?) : v.isTime = true := by
  obtain ⟨d, -, rfl, -⟩ | ⟨m, -, rfl, -⟩ := of_scale?_eq hr h
  · rfl
  · rfl

/-- On one scale the order is that of the numbers. -/
theorem related_of_scale?_eq (q : Relation) (hr : r.isTime = true) (h : v.scale? = r.scale?) :
    v.related q r = .ok (q.holds (some (compareInt (v.count r) (r.count v)))) := by
  obtain ⟨d, e, rfl, rfl⟩ | ⟨m, n, rfl, rfl, hzone⟩ := of_scale?_eq hr h
  · rfl
  · rw [related, compare?, hzone, beq_self_eq_true, if_pos rfl]
    rfl

/-- Moments that cannot be equal have two clocks, so that they count by their instants. -/
theorem countBeside_of_canEqual_eq_false {m n : Moment} (h : m.canEqual n = false) :
    m.countBeside n = m.micros := by
  obtain ⟨hclock, -⟩ := Bool.or_eq_false_iff.mp h
  rw [Moment.countBeside, hclock, if_neg Bool.false_ne_true]

theorem count_eq_of_apart (h : v.Apart r) : v.count r = r.count v := by
  cases v with
  | moment m =>
    cases r with
    | moment n =>
      obtain ⟨hmicros, hcan⟩ := h
      rw [count, count, countBeside_of_canEqual_eq_false hcan,
        countBeside_of_canEqual_eq_false (m.canEqual_comm n ▸ hcan), hmicros]
    | _ => exact h.elim
  | _ => exact h.elim

/-- On one scale to mean the same is to have the same number and not to be apart. -/
theorem equals_of_scale?_eq (hr : r.isTime = true) (h : v.scale? = r.scale?) :
    v.equals r = true ↔ v.count r = r.count v ∧ ¬ v.Apart r := by
  obtain ⟨d, e, rfl, rfl⟩ | ⟨m, n, rfl, rfl, hzone⟩ := of_scale?_eq hr h
  · rw [equals, beq_iff_eq]
    exact Int.ofNat_inj.symm.trans (and_iff_left fun h => h).symm
  · rw [equals, Moment.same, hzone, beq_self_eq_true, Bool.true_and, Bool.and_eq_true, beq_iff_eq]
    constructor
    · rintro ⟨hcan, hcount⟩
      exact ⟨hcount, fun happart => Bool.false_ne_true (happart.2.symm.trans hcan)⟩
    · rintro ⟨hcount, happart⟩
      refine ⟨?_, hcount⟩
      rcases hcan : m.canEqual n with _ | _
      · rw [count, count, countBeside_of_canEqual_eq_false hcan,
          countBeside_of_canEqual_eq_false (m.canEqual_comm n ▸ hcan)] at hcount
        exact (happart ⟨hcount, hcan⟩).elim
      · rfl

/-- The calendar has the day, and a clock can show the time. -/
def InCalendar : Value → Prop
  | .date d => d.Valid
  | .moment m => m.date.Valid ∧ m.time.Valid
  | _ => False

/-- The value comes first: an earlier day, an earlier time shown where no zone is known or both are
of one region, or an earlier instant. -/
inductive Earlier : Value → Value → Prop
  | day {d e : Date} (h : d.Precedes e) : Earlier (.date d) (.date e)
  | clock {m n : Moment} (hclock : Zone.sharesClock m.zone n.zone = true)
    (h : m.date.Precedes n.date ∨ m.date = n.date ∧ m.time.micros < n.time.micros) :
    Earlier (.moment m) (.moment n)
  | instant {m n : Moment} {o p : Int} (hclock : Zone.sharesClock m.zone n.zone = false)
    (hm : m.offset = some o) (hn : n.offset = some p)
    (h : m.clockMicros - o < n.clockMicros - p) : Earlier (.moment m) (.moment n)

theorem isTime_of_inCalendar (h : r.InCalendar) : r.isTime = true := by
  cases r with
  | date _ | moment _ => rfl
  | _ => cases h

/-- Of two clocks that are not one, both are of a zone if one is. -/
theorem exists_offset_of_not_sharesClock {z w : Option Zone} (h : Zone.sharesClock z w = false)
    (hzone : z.isSome = w.isSome) :
    ∃ o p, z.map Zone.offset = some o ∧ w.map Zone.offset = some p := by
  rcases z with _ | z <;> rcases w with _ | w
  · cases h
  · cases hzone
  · cases hzone
  · exact ⟨_, _, rfl, rfl⟩

/-- **What the calendar has is numbered in its order.** -/
theorem count_lt_iff (hv : v.InCalendar) (hr : r.InCalendar) (h : v.scale? = r.scale?) :
    v.count r < r.count v ↔ v.Earlier r := by
  obtain ⟨d, e, rfl, rfl⟩ | ⟨m, n, rfl, rfl, hzone⟩ := of_scale?_eq (isTime_of_inCalendar hr) h
  · have hcount : (date d).count (date e) < (date e).count (date d) ↔ d.Precedes e :=
      Int.ofNat_lt.trans (Date.number_lt_iff hv hr)
    exact hcount.trans ⟨.day, fun | .day h => h⟩
  · rw [count, count, Moment.countBeside, Moment.countBeside, Zone.sharesClock_comm n.zone]
    rcases hclock : Zone.sharesClock m.zone n.zone with _ | _
    · obtain ⟨o, p, hm, hn⟩ := exists_offset_of_not_sharesClock hclock hzone
      have hmicros : m.micros = m.clockMicros - o ∧ n.micros = n.clockMicros - p := by
        rw [Moment.micros, Moment.micros, Moment.offset, Moment.offset, hm, hn]
        exact ⟨rfl, rfl⟩
      rw [if_neg Bool.false_ne_true, if_neg Bool.false_ne_true, hmicros.1, hmicros.2]
      refine ⟨.instant hclock hm hn, fun h => ?_⟩
      cases h with
      | clock hclock' _ => cases hclock.symm.trans hclock'
      | instant _ hm' hn' h =>
        obtain rfl := Option.some.inj (hm.symm.trans hm')
        obtain rfl := Option.some.inj (hn.symm.trans hn')
        exact h
    · rw [if_pos rfl, if_pos rfl]
      refine (Moment.clockMicros_lt_iff hv.1 hr.1 hv.2 hr.2).trans ⟨.clock hclock, fun h => ?_⟩
      cases h with
      | clock _ h => exact h
      | instant hclock' _ _ _ => cases hclock.symm.trans hclock'

/-- There is no order with what stands on no scale or on another one. -/
theorem related_of_scale?_ne (q : Relation) (hr : r.isTime = true) (h : v.scale? ≠ r.scale?) :
    v.related q r = .error .unsupported ∧ r.related q v = .error .unsupported := by
  have hscalar := isScalar_of_isTime hr
  have hcompare : v.compare? r = .error .unsupported ∧ r.compare? v = .error .unsupported := by
    rcases hv : v.isScalar with _ | _
    · -- a collection stands on no scale and has no order with a date or a moment
      cases r with
      | date _ | moment _ =>
        cases v with
        | list _ | tuple _ | mapping _ => exact ⟨rfl, rfl⟩
        | _ => cases hv
      | _ => cases hr
    · exact ⟨compare?_of_scale?_ne hv hscalar h, compare?_of_scale?_ne hscalar hv h.symm⟩
  rw [related, related, hcompare.1, hcompare.2]
  exact ⟨rfl, rfl⟩

end Verdict.Value
