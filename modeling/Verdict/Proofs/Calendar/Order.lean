import Verdict.Calendar

/-!
# The order of the calendar

Days are counted, and the counts are in the order of the calendar: by the year, within a year by the
month, and within a month by the day (`Date.number_lt_iff`). A year has as many days as its months,
and a month no more than up to the next one, so no day of an earlier month or year is counted past a
later one. No two days of the calendar have the same number (`Date.number_inj`). Clocks that show a
time of the day are in the order of the days, and within a day of the times
(`Moment.clockMicros_lt_iff`).
-/

namespace Verdict

/-! ## Months and years -/

/-- The number of days of a year. -/
def daysInYear (year : Nat) : Nat := if isLeapYear year then 366 else 365

/-- The number of days before the first of a year. -/
def daysBeforeYear (year : Nat) : Nat :=
  (year - 1) * 365 + (year - 1) / 4 - (year - 1) / 100 + (year - 1) / 400

/-- Every fourth year is a leap year, but only every fourth of those that end a century. -/
theorem daysBeforeYear_succ {year : Nat} (h : 1 ≤ year) :
    daysBeforeYear (year + 1) = daysBeforeYear year + daysInYear year := by
  obtain ⟨y, rfl⟩ := Nat.exists_eq_add_of_le' h
  have hcenturies : y / 100 ≤ y / 4 := Nat.div_le_div_left (by decide) (by decide)
  have hfour : 100 ∣ y + 1 → 4 ∣ y + 1 := Nat.dvd_trans (by decide)
  have hcentury : 400 ∣ y + 1 → 100 ∣ y + 1 := Nat.dvd_trans (by decide)
  -- each of the three quotients grows by one in the years that its divisor divides
  simp only [daysBeforeYear, daysInYear, isLeapYear, Nat.add_sub_cancel, Nat.succ_div,
    Nat.dvd_iff_mod_eq_zero, Bool.and_eq_true, Bool.or_eq_true, beq_iff_eq, bne_iff_ne] at *
  generalize y / 4 = fours at *
  generalize y / 100 = centuries at *
  generalize y / 400 = fourths at *
  by_cases h4 : (y + 1) % 4 = 0
  · by_cases h100 : (y + 1) % 100 = 0
    · by_cases h400 : (y + 1) % 400 = 0
      · simp only [h4, h100, h400, reduceIte, or_true, and_self]
        omega
      · simp only [h4, h100, h400, reduceIte, ne_eq, not_true_eq_false, or_self, and_false]
        omega
    · simp only [h4, h100, mt hcentury h100, reduceIte, ne_eq, not_false_eq_true, true_or,
        and_self]
      omega
  · simp only [h4, mt hfour h4, mt hcentury (mt hfour h4), reduceIte, false_and]
    omega

theorem daysBeforeYear_mono {year year' : Nat} (h : 1 ≤ year) (hle : year ≤ year') :
    daysBeforeYear year ≤ daysBeforeYear year' := by
  induction hle with
  | refl => exact Nat.le_refl _
  | step hle ih =>
    rw [daysBeforeYear_succ (Nat.le_trans h hle)]
    exact Nat.le_trans ih (Nat.le_add_right _ _)

theorem daysBeforeMonth_succ {year month : Nat} (h : 1 ≤ month) :
    daysBeforeMonth year (month + 1) = daysBeforeMonth year month + daysInMonth year month := by
  obtain ⟨m, rfl⟩ := Nat.exists_eq_add_of_le' h
  simp only [daysBeforeMonth, Nat.add_sub_cancel, List.range_succ, List.foldl_append,
    List.foldl_cons, List.foldl_nil]

theorem daysBeforeMonth_mono {year month month' : Nat} (h : 1 ≤ month) (hle : month ≤ month') :
    daysBeforeMonth year month ≤ daysBeforeMonth year month' := by
  induction hle with
  | refl => exact Nat.le_refl _
  | step hle ih =>
    rw [daysBeforeMonth_succ (Nat.le_trans h hle)]
    exact Nat.le_trans ih (Nat.le_add_right _ _)

/-- A year has the days of its twelve months. -/
theorem daysBeforeMonth_thirteen (year : Nat) : daysBeforeMonth year 13 = daysInYear year := by
  simp only [daysBeforeMonth, daysInYear, daysInMonth, List.range, List.range.loop, List.foldl]
  cases isLeapYear year <;> rfl

namespace Date

variable {d e : Date}

theorem number_eq (d : Date) :
    d.number = daysBeforeYear d.year + daysBeforeMonth d.year d.month + d.day := rfl

/-- A day is counted within its month. -/
theorem number_le_of_month (hd : d.Valid) :
    d.number ≤ daysBeforeYear d.year + daysBeforeMonth d.year (d.month + 1) := by
  obtain ⟨-, -, hmonth, -, -, hday⟩ := hd
  rw [number_eq, daysBeforeMonth_succ hmonth]
  omega

/-- A day is counted within its year. -/
theorem number_le_of_year (hd : d.Valid) : d.number ≤ daysBeforeYear (d.year + 1) := by
  have hmonth : daysBeforeMonth d.year (d.month + 1) ≤ daysInYear d.year := by
    rw [← daysBeforeMonth_thirteen]
    exact daysBeforeMonth_mono (Nat.le_add_left _ _) (Nat.succ_le_succ hd.2.2.2.1)
  rw [daysBeforeYear_succ hd.1]
  exact Nat.le_trans (number_le_of_month hd) (Nat.add_le_add_left hmonth _)

/-! ## The order -/

/-- The day lies in an earlier year, or in an earlier month of the year, or earlier in the month. -/
def Precedes (d e : Date) : Prop :=
  d.year < e.year ∨ d.year = e.year ∧ (d.month < e.month ∨ d.month = e.month ∧ d.day < e.day)

theorem precedes_or_eq_or_precedes (d e : Date) : d.Precedes e ∨ d = e ∨ e.Precedes d := by
  obtain ⟨year, month, day⟩ := d
  obtain ⟨year', month', day'⟩ := e
  simp only [Precedes, mk.injEq]
  omega

theorem number_lt_of_precedes (hd : d.Valid) (he : e.Valid) (h : d.Precedes e) :
    d.number < e.number := by
  have hday : 1 ≤ e.day := he.2.2.2.2.1
  rw [number_eq e]
  rcases h with hyear | ⟨hyear, hmonth | ⟨hmonth, hless⟩⟩
  · have hnumber := number_le_of_year hd
    have hmono := daysBeforeYear_mono (Nat.le_add_left 1 d.year) hyear
    omega
  · have hnumber := number_le_of_month hd
    have hmono : daysBeforeMonth d.year (d.month + 1) ≤ daysBeforeMonth d.year e.month :=
      daysBeforeMonth_mono (Nat.le_add_left 1 d.month) hmonth
    rw [← hyear]
    omega
  · rw [number_eq d, hyear, hmonth]
    omega

/-- **The count of days is in the order of the calendar.** -/
theorem number_lt_iff (hd : d.Valid) (he : e.Valid) : d.number < e.number ↔ d.Precedes e := by
  refine ⟨fun hlt => ?_, number_lt_of_precedes hd he⟩
  rcases precedes_or_eq_or_precedes d e with h | rfl | h
  · exact h
  · exact absurd hlt (Nat.lt_irrefl _)
  · exact absurd hlt (Nat.lt_asymm (number_lt_of_precedes he hd h))

/-- No two days have the same number. -/
theorem number_inj (hd : d.Valid) (he : e.Valid) : d.number = e.number ↔ d = e := by
  refine ⟨fun heq => ?_, congrArg number⟩
  rcases precedes_or_eq_or_precedes d e with h | rfl | h
  · exact absurd heq (Nat.ne_of_lt (number_lt_of_precedes hd he h))
  · rfl
  · exact absurd heq.symm (Nat.ne_of_lt (number_lt_of_precedes he hd h))

end Date

/-! ## Times of the day -/

/-- A clock can show the time. -/
def DayTime.Valid (t : DayTime) : Prop :=
  t.hour < 24 ∧ t.minute < 60 ∧ t.second < 60 ∧ t.micro < 1000000

theorem DayTime.micros_lt {t : DayTime} (h : t.Valid) : t.micros < 86400000000 := by
  obtain ⟨hhour, hminute, hsecond, hmicro⟩ := h
  rw [micros]
  omega

/-- **Clocks are in the order of their days, and within a day in that of their times.** -/
theorem Moment.clockMicros_lt_iff {m n : Moment} (hm : m.date.Valid) (hn : n.date.Valid)
    (hmtime : m.time.Valid) (hntime : n.time.Valid) :
    m.clockMicros < n.clockMicros ↔
      m.date.Precedes n.date ∨ m.date = n.date ∧ m.time.micros < n.time.micros := by
  have hmday := DayTime.micros_lt hmtime
  have hnday := DayTime.micros_lt hntime
  rw [← Date.number_lt_iff hm hn, ← Date.number_inj hm hn, clockMicros, clockMicros]
  omega

end Verdict
