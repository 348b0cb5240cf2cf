import Verdict.Proofs.Check.Arguments
import Verdict.Proofs.Value.Time

/-!
# One order of dates

The checks before and after a reference, the range and the checks against a clock ask about the
order of a value and a date or a moment. On the scale of the reference that is an order of whole
numbers, so a value is before the reference, after it, or means the same, and the range is what is
left between the two ends (`DateCheck.inRange_between`). Only where clocks are set is it otherwise:
a moment in an hour that they show twice or leave out, and the same instant in another zone, are
apart, so that none of the three holds (`DateCheck.exists_placed`).

The order is that of the calendar (`DateCheck.asks_earlier`). The checks against a clock ask what
those before and after its time ask (`DateCheck.future_agrees`, `DateCheck.past_agrees`). Off the
scale none of them has an answer (`DateCheck.raises_orderCheck`), but the null value passes them
all. `DateCheck.one_order` puts this together.
-/

namespace Verdict

variable {minimum maximum r v : Value}

/-! ## Ranges on a scale -/

theorem Value.within_of_scale?_eq (hmin : minimum.isTime = true)
    (hmax : maximum.scale? = minimum.scale?) (hv : v.scale? = minimum.scale?) :
    Value.within minimum maximum v =
      .ok (decide (minimum.count v ≤ v.count minimum) &&
        decide (v.count maximum ≤ maximum.count v)) := by
  have hlower := Value.related_of_scale?_eq .atMost (Value.isTime_of_scale?_eq hmin hv) hv.symm
  have hupper := Value.related_of_scale?_eq .atMost (Value.isTime_of_scale?_eq hmin hmax)
    (hv.trans hmax.symm)
  rw [Relation.holds_compareInt] at hlower hupper
  exact Value.within_of_related hlower hupper

/-- The ends of a range that is accepted stand on one scale. -/
theorem scale?_eq_of_requireRange {nonNegative : Bool} (hmin : minimum.isTime = true)
    (h : requireRange minimum maximum nonNegative = .ok ()) : maximum.scale? = minimum.scale? := by
  refine Decidable.byContradiction fun hne => ?_
  cases (related_of_requireRange h).2.symm.trans (Value.related_of_scale?_ne .above hmin hne).2

/-! ## Checks that agree -/

/-- Two checks come to the same on the value. -/
structure Check.Agrees (c d : Check) (v : Value) : Prop where
  admits : c.Admits v ↔ d.Admits v
  refuses : c.Refuses v ↔ d.Refuses v
  raises : ∀ fault, c.Raises v fault ↔ d.Raises v fault

theorem Check.Fit.agrees_of_answer {c d : Check} (hc : c.Fit) (hd : d.Fit)
    (h : c.answer v = d.answer v) : c.Agrees d v where
  admits := by rw [hc.admits_iff, hd.admits_iff, h]
  refuses := by rw [hc.refuses_iff, hd.refuses_iff, h]
  raises fault := by rw [hc.raises_iff, hd.raises_iff, h]

/-- The value is before the reference, or after it, or means the same, as two checks and the meaning
say: one of the three holds and the others do not. -/
inductive Check.Placed (before after : Check) (v r : Value) : Prop
  | before (hbefore : before.Admits v) (hafter : after.Refuses v) (hsame : v.equals r = false)
  | same (hbefore : before.Refuses v) (hafter : after.Refuses v) (hsame : v.equals r = true)
  | after (hbefore : before.Refuses v) (hafter : after.Admits v) (hsame : v.equals r = false)

/-- The value is neither before the reference nor after it, and does not mean the same. -/
structure Check.Unplaced (before after : Check) (v r : Value) : Prop where
  before : before.Refuses v
  after : after.Refuses v
  same : v.equals r = false

namespace DateCheck

variable {b a c : Check}

/-! ## Before and after -/

/-- Every reference is accepted. -/
theorem exists_orderCheck (hr : r.isNull = false) :
    ∃ b a, (Request.date (.before r)).build = .ok b ∧ (Request.date (.after r)).build = .ok a := by
  have hlimit (key : String) : requireLimit key r false = .ok () :=
    requireLimit_of_given hr (fun h => (Bool.false_ne_true h).elim) key
  have hbuild (code : Code) (q : Relation) : ∃ c, orderCheck code r q = .ok c := by
    rw [orderCheck, hlimit]
    exact ⟨_, rfl⟩
  obtain ⟨b, hb⟩ := hbuild .before .below
  obtain ⟨a, ha⟩ := hbuild .after .above
  exact ⟨b, a, hb, ha⟩

theorem answer_orderCheck {code : Code} {q : Relation} (h : orderCheck code r q = .ok c)
    (hv : v.isNull = false) : c.answer v = v.related q r := by
  obtain ⟨_, -, h⟩ := exists_of_bind_eq_ok h
  obtain rfl := Except.ok.inj h
  exact Check.answer_of_isNull_eq_false hv

/-- On one scale, such a check asks about the numbers. -/
theorem orderCheck_decides {code : Code} {q : Relation} (h : orderCheck code r q = .ok c)
    (hfit : c.Fit) (hr : r.isTime = true) (hv : v.scale? = r.scale?) :
    (c.Admits v ↔ q.holds (some (compareInt (v.count r) (r.count v))) = true) ∧
      (c.Refuses v ↔ q.holds (some (compareInt (v.count r) (r.count v))) = false) := by
  have hanswer := answer_orderCheck h (Value.isNull_of_isTime (Value.isTime_of_scale?_eq hr hv))
  rw [hfit.admits_iff, hfit.refuses_iff, hanswer, Value.related_of_scale?_eq _ hr hv,
    Except.ok.injEq, Except.ok.injEq]
  exact ⟨Iff.rfl, Iff.rfl⟩

theorem before_decides (h : (before r).build = .ok b) (hr : r.isTime = true)
    (hv : v.scale? = r.scale?) :
    (b.Admits v ↔ v.count r < r.count v) ∧ (b.Refuses v ↔ r.count v ≤ v.count r) := by
  obtain ⟨hadmits, hrefuses⟩ := orderCheck_decides h ((built_of_build h).fit rfl) hr hv
  rw [hadmits, hrefuses, Relation.holds_compareInt, decide_eq_true_eq, decide_eq_false_iff_not,
    Int.not_lt]
  exact ⟨Iff.rfl, Iff.rfl⟩

theorem after_decides (h : (after r).build = .ok a) (hr : r.isTime = true)
    (hv : v.scale? = r.scale?) :
    (a.Admits v ↔ r.count v < v.count r) ∧ (a.Refuses v ↔ v.count r ≤ r.count v) := by
  obtain ⟨hadmits, hrefuses⟩ := orderCheck_decides h ((built_of_build h).fit rfl) hr hv
  rw [hadmits, hrefuses, Relation.holds_compareInt, decide_eq_true_eq, decide_eq_false_iff_not,
    Int.not_lt]
  exact ⟨Iff.rfl, Iff.rfl⟩

/-- Exactly one of three: before the reference, the same, or after it; none of them for what is the
instant of the reference but cannot equal it. -/
theorem exists_placed (hr : r.isTime = true) :
    ∃ b a, (Request.date (.before r)).build = .ok b ∧ (Request.date (.after r)).build = .ok a ∧
      ∀ v, v.scale? = r.scale? →
        (¬v.Apart r → b.Placed a v r) ∧ (v.Apart r → b.Unplaced a v r) := by
  obtain ⟨b, a, hb, ha⟩ := exists_orderCheck (Value.isNull_of_isTime hr)
  refine ⟨b, a, hb, ha, fun v hv => ?_⟩
  obtain ⟨hbadmits, hbrefuses⟩ := before_decides hb hr hv
  obtain ⟨haadmits, harefuses⟩ := after_decides ha hr hv
  have hsame := Value.equals_of_scale?_eq hr hv
  have hother (h : v.count r ≠ r.count v) : v.equals r = false :=
    Bool.eq_false_iff.mpr fun heq => h (hsame.mp heq).1
  constructor
  · intro happart
    rcases Int.lt_trichotomy (v.count r) (r.count v) with h | h | h
    · exact .before (hbadmits.mpr h) (harefuses.mpr (Int.le_of_lt h)) (hother (Int.ne_of_lt h))
    · exact .same (hbrefuses.mpr (Int.le_of_eq h.symm)) (harefuses.mpr (Int.le_of_eq h))
        (hsame.mpr ⟨h, happart⟩)
    · exact .after (hbrefuses.mpr (Int.le_of_lt h)) (haadmits.mpr h) (hother (Int.ne_of_gt h))
  · intro happart
    have hcount := Value.count_eq_of_apart happart
    exact ⟨hbrefuses.mpr (Int.le_of_eq hcount.symm), harefuses.mpr (Int.le_of_eq hcount),
      Bool.eq_false_iff.mpr fun heq => (hsame.mp heq).2 happart⟩

/-! ## Ranges -/

theorem answer_inRange (h : (inRange minimum maximum).build = .ok c) (hv : v.isNull = false) :
    c.answer v = Value.within minimum maximum v := by
  obtain ⟨-, rfl⟩ := Check.accept_eq_ok_iff.mp h
  exact Check.answer_of_isNull_eq_false hv

theorem requireRange_of_build (h : (inRange minimum maximum).build = .ok c) :
    requireRange minimum maximum false = .ok () :=
  Shape.sound_bounds_iff.mp (Check.accept_eq_ok_iff.mp h).1

/-- In a range is what is neither before its one end nor after the other. -/
theorem inRange_between (hmin : minimum.isTime = true)
    (h : (inRange minimum maximum).build = .ok c) :
    ∃ b a, (Request.date (.before minimum)).build = .ok b ∧
      (Request.date (.after maximum)).build = .ok a ∧ ∀ v, v.scale? = minimum.scale? →
        c.Decides v ∧ (c.Admits v ↔ ¬b.Admits v ∧ ¬a.Admits v) := by
  have hmax := scale?_eq_of_requireRange hmin (requireRange_of_build h)
  have hmaxtime := Value.isTime_of_scale?_eq hmin hmax
  obtain ⟨b, -, hb, -⟩ := exists_orderCheck (Value.isNull_of_isTime hmin)
  obtain ⟨-, a, -, ha⟩ := exists_orderCheck (Value.isNull_of_isTime hmaxtime)
  refine ⟨b, a, hb, ha, fun v hv => ?_⟩
  have hanswer := answer_inRange h (Value.isNull_of_isTime (Value.isTime_of_scale?_eq hmin hv))
  rw [Value.within_of_scale?_eq hmin hmax hv] at hanswer
  refine ⟨((built_of_build h).fit rfl).decides_of_answer hanswer, ?_⟩
  rw [((built_of_build h).fit rfl).admits_iff, hanswer, (before_decides hb hmin hv).1,
    (after_decides ha hmaxtime (hv.trans hmax.symm)).1, Except.ok.injEq, Bool.and_eq_true,
    decide_eq_true_eq, decide_eq_true_eq, Int.not_lt, Int.not_lt]

/-! ## Clocks -/

variable {clock : Clock} {f p : Check}

/-- To lie in the future of a clock is to be after its time. -/
theorem future_agrees (hf : (future clock).build = .ok f)
    (ha : (after (clock.now v)).build = .ok a) : f.Agrees a v := by
  refine ((built_of_build hf).fit rfl).agrees_of_answer ((built_of_build ha).fit rfl) ?_
  obtain rfl := Except.ok.inj hf
  obtain ⟨_, -, ha⟩ := exists_of_bind_eq_ok ha
  obtain rfl := Except.ok.inj ha
  rfl

/-- To lie in the past of a clock is to be before its time. -/
theorem past_agrees (hp : (past clock).build = .ok p)
    (hb : (before (clock.now v)).build = .ok b) : p.Agrees b v := by
  refine ((built_of_build hp).fit rfl).agrees_of_answer ((built_of_build hb).fit rfl) ?_
  obtain rfl := Except.ok.inj hp
  obtain ⟨_, -, hb⟩ := exists_of_bind_eq_ok hb
  obtain rfl := Except.ok.inj hb
  rfl

/-! ## Other scales -/

section

variable (hr : r.isTime = true) (hnull : v.isNull = false) (h : v.scale? ≠ r.scale?)

include hr hnull h

/-- What is off the scale of the reference cannot be asked whether it is before or after that. -/
theorem raises_orderCheck {code : Code} {q : Relation} (hc : orderCheck code r q = .ok c) :
    c.Raises v .unsupported :=
  Check.raises_of_answer ((answer_orderCheck hc hnull).trans (Value.related_of_scale?_ne q hr h).1)

theorem raises_inRange (hc : (inRange r maximum).build = .ok c) : c.Raises v .unsupported := by
  refine Check.raises_of_answer ((answer_inRange hc hnull).trans ?_)
  exact Value.within_of_fault (Value.related_of_scale?_ne .atMost hr h).2

theorem raises_future (hnow : clock.now v = r) (hf : (future clock).build = .ok f) :
    f.Raises v .unsupported := by
  obtain ⟨b, a, -, ha⟩ := exists_orderCheck (Value.isNull_of_isTime hr)
  exact ((future_agrees hf (hnow ▸ ha)).raises _).mpr (raises_orderCheck hr hnull h ha)

theorem raises_past (hnow : clock.now v = r) (hp : (past clock).build = .ok p) :
    p.Raises v .unsupported := by
  obtain ⟨b, a, hb, -⟩ := exists_orderCheck (Value.isNull_of_isTime hr)
  exact ((past_agrees hp (hnow ▸ hb)).raises _).mpr (raises_orderCheck hr hnull h hb)

/-- A range between two scales is not built. -/
theorem build_inRange_of_scale?_ne : (inRange r v).build = .error .unsupported := by
  have hrange : requireRange r v false = .error .unsupported := by
    rw [requireRange, Value.isNull_of_isTime hr, hnull, Bool.or_self, if_neg Bool.false_ne_true,
      (Value.related_of_scale?_ne .above hr h).2]
    rfl
  rw [build, Check.accept, Shape.check, Shape.parameters, hrange]
  rfl

end

/-- The null value passes any check of dates, without being asked about. -/
theorem admits_null {d : DateCheck} (h : (Request.date d).build = .ok c) : c.Admits .null := by
  refine Check.admits_null ?_
  cases d with
  | before _ | after _ =>
    obtain ⟨_, -, h⟩ := exists_of_bind_eq_ok h
    obtain rfl := Except.ok.inj h
    rfl
  | inRange _ _ =>
    obtain ⟨-, rfl⟩ := Check.accept_eq_ok_iff.mp h
    rfl
  | future _ | past _ | isWeekday | isWeekend =>
    obtain rfl := Except.ok.inj h
    rfl

/-! ## All together -/

/-- With what the calendar has, to be before is to come first. -/
theorem asks_earlier (hv : v.InCalendar) (hr : r.InCalendar) (h : v.scale? = r.scale?)
    (hb : (before r).build = .ok b) (ha : (after r).build = .ok a) :
    (b.Admits v ↔ v.Earlier r) ∧ (a.Admits v ↔ r.Earlier v) := by
  have htime := Value.isTime_of_inCalendar hr
  rw [(before_decides hb htime h).1, (after_decides ha htime h).1, Value.count_lt_iff hv hr h,
    Value.count_lt_iff hr hv h.symm]
  exact ⟨Iff.rfl, Iff.rfl⟩

/-- **The checks of dates ask about one order.** In a range that is accepted is what is neither
before its lower end nor after its upper one. Of every reference, a value of its kind is before it,
or after it, or means the same, and no two of these, unless the two are apart: one instant in two
zones, in an hour that the clocks of one of them show twice or leave out. Then none of the three
holds. That it is before is to say that its day, its time where no zone is known or both have one
region, or its instant is the earlier one. A clock is asked like a reference that has its time. The
null value passes without being asked about; all else that is of another kind than the reference has
no answer from any of these checks, and leaves the result as it was. -/
theorem one_order :
    (∀ minimum maximum c, minimum.isTime = true →
      (Request.date (.inRange minimum maximum)).build = .ok c →
      ∃ b a, (Request.date (.before minimum)).build = .ok b ∧
        (Request.date (.after maximum)).build = .ok a ∧ ∀ v, v.scale? = minimum.scale? →
          c.Decides v ∧ (c.Admits v ↔ ¬b.Admits v ∧ ¬a.Admits v)) ∧
    (∀ r, r.isTime = true → ∃ b a, (Request.date (.before r)).build = .ok b ∧
      (Request.date (.after r)).build = .ok a ∧ ∀ v, v.scale? = r.scale? →
        (¬v.Apart r → b.Placed a v r) ∧ (v.Apart r → b.Unplaced a v r)) ∧
    (∀ (v r : Value) b a, v.InCalendar → r.InCalendar → v.scale? = r.scale? →
      (Request.date (.before r)).build = .ok b → (Request.date (.after r)).build = .ok a →
      (b.Admits v ↔ v.Earlier r) ∧ (a.Admits v ↔ r.Earlier v)) ∧
    (∀ (clock : Clock) v, (clock.now v).isNull = false → ∃ f p a b,
      (Request.date (.future clock)).build = .ok f ∧ (Request.date (.past clock)).build = .ok p ∧
      (Request.date (.after (clock.now v))).build = .ok a ∧
      (Request.date (.before (clock.now v))).build = .ok b ∧ f.Agrees a v ∧ p.Agrees b v) ∧
    (∀ d c, (Request.date d).build = .ok c → c.Admits .null) ∧
    ∀ r v, r.isTime = true → v.isNull = false → v.scale? ≠ r.scale? →
      (∀ b, (Request.date (.before r)).build = .ok b → b.Raises v .unsupported) ∧
      (∀ a, (Request.date (.after r)).build = .ok a → a.Raises v .unsupported) ∧
      (∀ maximum c, (Request.date (.inRange r maximum)).build = .ok c → c.Raises v .unsupported) ∧
      (∀ (clock : Clock) f, clock.now v = r → (Request.date (.future clock)).build = .ok f →
        f.Raises v .unsupported) ∧
      (∀ (clock : Clock) p, clock.now v = r → (Request.date (.past clock)).build = .ok p →
        p.Raises v .unsupported) ∧
      (Request.date (.inRange r v)).build = .error .unsupported := by
  refine ⟨fun _ _ _ => inRange_between, fun _ => exists_placed,
    fun _ _ _ _ hv hr h => asks_earlier hv hr h, fun clock v hnow => ?_,
    fun _ _ => admits_null, fun r v hr hnull h => ⟨fun _ => raises_orderCheck hr hnull h,
      fun _ => raises_orderCheck hr hnull h, fun _ _ => raises_inRange hr hnull h,
      fun _ _ => raises_future hr hnull h, fun _ _ => raises_past hr hnull h,
      build_inRange_of_scale?_ne hr hnull h⟩⟩
  obtain ⟨b, a, hb, ha⟩ := exists_orderCheck hnow
  exact ⟨_, _, a, b, rfl, rfl, ha, hb, future_agrees rfl ha, past_agrees rfl hb⟩

/-- One instant in the time of two zones, the days of which are in different years: each is a range
with the other, and neither is before or after the other. Their date, and a moment at which clocks
of no known zone show the same, have no order with them. The last day of a February is before the
first one of March. -/
theorem one_order_across_zones :
    let east : Value := .moment ⟨⟨2024, 1, 1⟩, ⟨0, 30, 0, 0⟩, some (.fixed 3600000000)⟩
    let west : Value := .moment ⟨⟨2023, 12, 31⟩, ⟨23, 30, 0, 0⟩, some (.fixed 0)⟩
    let unknown : Value := .moment ⟨⟨2023, 12, 31⟩, ⟨23, 30, 0, 0⟩, none⟩
    let day : Value := .date ⟨2023, 12, 31⟩
    let march : Value := .date ⟨2024, 3, 1⟩
    ∃ c, (Request.date (.inRange east west)).build = .ok c ∧ c.Decides west ∧
      (∃ b a, (Request.date (.before east)).build = .ok b ∧
        (Request.date (.after east)).build = .ok a ∧ b.Placed a west east) ∧
      west.equals east = true ∧ c.Raises unknown .unsupported ∧ c.Raises day .unsupported ∧
      (∃ f a, (Request.date (.future (.fixed east))).build = .ok f ∧
        (Request.date (.after east)).build = .ok a ∧ f.Agrees a west) ∧
      ∃ b, (Request.date (.before march)).build = .ok b ∧ b.Admits (.date ⟨2024, 2, 29⟩) := by
  intro east west unknown day march
  have hbuilt (x y : Value) (h : requireRange x y false = .ok ()) :
      ∃ c, (Request.date (.inRange x y)).build = .ok c := ⟨_, Check.accept_bounds h⟩
  obtain ⟨c, hc⟩ := hbuilt east west (by decide)
  obtain ⟨hbetween, hplaced, hcalendar, hclock, -, hother⟩ := one_order
  obtain ⟨_, _, -, -, hrange⟩ := hbetween east west c rfl hc
  obtain ⟨b, a, hb, ha, hthree⟩ := hplaced east rfl
  obtain ⟨f, _, a', _, hf, -, ha', -, hagrees, -⟩ := hclock (.fixed east) west rfl
  obtain ⟨e, l, he, hl, -⟩ := hplaced march rfl
  have happart : ¬west.Apart east := fun h => Bool.false_ne_true h.2.symm
  have hleap : (Value.date ⟨2024, 2, 29⟩).InCalendar := by unfold Value.InCalendar; decide
  have hmarch : march.InCalendar := by unfold march Value.InCalendar; decide
  have hearlier : (Value.date ⟨2024, 2, 29⟩).Earlier march := .day (.inr ⟨rfl, .inl (by decide)⟩)
  exact ⟨c, hc, (hrange west rfl).1, ⟨b, a, hb, ha, (hthree west rfl).1 happart⟩, by decide,
    (hother east unknown rfl rfl (by decide)).2.2.1 west c hc,
    (hother east day rfl rfl (by decide)).2.2.1 west c hc, ⟨f, a', hf, ha', hagrees⟩, e, he,
    (hcalendar _ march e l hleap hmarch rfl he hl).1.mpr hearlier⟩

/-- A moment in the hour that the clocks of New York showed twice is not before its own instant at
offset zero, not after it, and does not mean the same. And the null value passes a check that has no
answer for a moment. -/
theorem one_order_hour_twice :
    let newYork : Region := ⟨0, "zoneinfo.ZoneInfo(key='America/New_York')"⟩
    let zone : Zone := .region newYork (-14400000000) (-18000000000) false
    let first : Value := .moment ⟨⟨2021, 11, 7⟩, ⟨1, 30, 0, 0⟩, some zone⟩
    let instant : Value := .moment ⟨⟨2021, 11, 7⟩, ⟨5, 30, 0, 0⟩, some (.fixed 0)⟩
    first.scale? = instant.scale? ∧
      (∃ b a, (Request.date (.before instant)).build = .ok b ∧
        (Request.date (.after instant)).build = .ok a ∧
        ¬b.Admits first ∧ ¬a.Admits first ∧ first.equals instant = false) ∧
      ∃ b, (Request.date (.before (.date ⟨2024, 1, 1⟩))).build = .ok b ∧
        b.Raises first .unsupported ∧ b.Admits .null := by
  intro newYork zone first instant
  have happart : first.Apart instant := ⟨by decide, rfl⟩
  obtain ⟨b, a, hb, ha, hplaces⟩ := exists_placed (r := instant) rfl
  have hnowhere : b.Unplaced a first instant := (hplaces first rfl).2 happart
  obtain ⟨d, -, hd, -⟩ := exists_orderCheck (r := .date ⟨2024, 1, 1⟩) rfl
  exact ⟨rfl, ⟨b, a, hb, ha, hnowhere.before.not_admits, hnowhere.after.not_admits, hnowhere.same⟩,
    d, hd, raises_orderCheck rfl rfl (by decide) hd, admits_null hd⟩

end DateCheck

end Verdict
