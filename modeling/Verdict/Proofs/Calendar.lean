import Verdict.Calendar.Written

/-!
# Dates and moments are told apart by their text

A date or a moment is written as numbers in digits with a mark behind each, and a mark is no digit.
So the first number and what follows it can be told from the text (`padded_append_inj`), and from
there all parts one after the other: no two dates read the same (`Date.text_injective`). Of a moment
day, time and offset can be told (`Moment.display_inj`), but not the region, so no two moments read
the same if regions are left out (`Moment.display_injective`).
-/

namespace Verdict

open Text

/-! ## Numbers -/

/-- What follows a number: nothing, or a character that is no digit. -/
def EndsNumber (rest : List Char) : Prop := ∀ c, rest.head? = some c → c.isDigit = false

theorem endsNumber_nil : EndsNumber [] := fun _ h => nomatch h

theorem endsNumber_cons {c : Char} (h : c.isDigit = false) (rest : List Char) :
    EndsNumber (c :: rest) := by
  intro d hd
  obtain rfl := Option.some.inj hd
  exact h

/-- Digits, and what follows them. -/
theorem digits_append_inj {ds es rest rest' : List Char} (hds : ∀ c ∈ ds, c.isDigit = true)
    (hes : ∀ c ∈ es, c.isDigit = true) (hrest : EndsNumber rest) (hrest' : EndsNumber rest')
    (h : ds ++ rest = es ++ rest') : ds = es ∧ rest = rest' := by
  induction ds generalizing es with
  | nil =>
    cases es with
    | nil => exact ⟨rfl, h⟩
    | cons e es =>
      -- a digit cannot stand behind the digits
      have hdigit : e.isDigit = false := hrest e (congrArg List.head? h)
      rw [hes e List.mem_cons_self] at hdigit
      cases hdigit
  | cons d ds ih =>
    obtain ⟨hd, hds⟩ := List.forall_mem_cons.mp hds
    cases es with
    | nil =>
      have hdigit : d.isDigit = false := hrest' d (congrArg List.head? h.symm)
      rw [hd] at hdigit
      cases hdigit
    | cons e es =>
      rw [List.cons_append, List.cons_append] at h
      obtain ⟨rfl, htail⟩ := List.cons.inj h
      obtain ⟨rfl, hsame⟩ := ih hds (List.forall_mem_cons.mp hes).2 htail
      exact ⟨rfl, hsame⟩

theorem isDigit_of_mem_toDigits {n : Nat} {c : Char} (h : c ∈ Nat.toDigits 10 n) :
    c.isDigit = true := Nat.isDigit_of_mem_toDigits (by decide) (by decide) h

theorem toList_padded (width n : Nat) :
    (padded width n).toList = padLeft width (Nat.toDigits 10 n) := String.toList_ofList

theorem isDigit_of_mem_padded {width n : Nat} {c : Char} (h : c ∈ (padded width n).toList) :
    c.isDigit = true := by
  rw [toList_padded, padLeft] at h
  rcases List.mem_append.mp h with hzero | hdigit
  · obtain rfl := List.eq_of_mem_replicate hzero
    rfl
  · exact isDigit_of_mem_toDigits hdigit

theorem padded_ne_nil (width n : Nat) : (padded width n).toList ≠ [] := by
  rw [toList_padded, padLeft]
  exact List.append_ne_nil_of_right_ne_nil _ Nat.toDigits_ne_nil

/-- Zeros in front of a number do not count. -/
theorem ofDigitChars_padLeft (width : Nat) (cs : List Char) :
    Nat.ofDigitChars 10 (padLeft width cs) 0 = Nat.ofDigitChars 10 cs 0 := by
  rw [padLeft, Nat.ofDigitChars_append, Nat.ofDigitChars_replicate_zero, Nat.mul_zero]

/-- A padded number, and what follows it. -/
theorem padded_append_inj {width m n : Nat} {rest rest' : List Char} (hrest : EndsNumber rest)
    (hrest' : EndsNumber rest')
    (h : (padded width m).toList ++ rest = (padded width n).toList ++ rest') :
    m = n ∧ rest = rest' := by
  obtain ⟨hdigits, hsame⟩ := digits_append_inj (fun _ hc => isDigit_of_mem_padded hc)
    (fun _ hc => isDigit_of_mem_padded hc) hrest hrest' h
  have hread := congrArg (fun cs => Nat.ofDigitChars 10 cs 0) hdigits
  simp only [toList_padded, ofDigitChars_padLeft, Nat.ofDigitChars_ten_toDigits] at hread
  exact ⟨hread, hsame⟩

/-- A padded number with a mark behind it, and what follows the mark. -/
theorem padded_mark_inj {width m n : Nat} {mark : Char} (hmark : mark.isDigit = false)
    {rest rest' : List Char}
    (h : (padded width m).toList ++ mark :: rest = (padded width n).toList ++ mark :: rest') :
    m = n ∧ rest = rest' := by
  obtain ⟨hnumber, hsame⟩ := padded_append_inj (endsNumber_cons hmark rest)
    (endsNumber_cons hmark rest') h
  exact ⟨hnumber, (List.cons.inj hsame).2⟩

/-! ## Dates -/

theorem Date.toList_text (d : Date) : d.text.toList =
    (padded 4 d.year).toList ++ '-' :: ((padded 2 d.month).toList ++ '-' ::
      (padded 2 d.day).toList) := by
  simp [Date.text]

/-- A date, and what follows it. -/
theorem Date.text_append_inj {d e : Date} {rest rest' : List Char} (hrest : EndsNumber rest)
    (hrest' : EndsNumber rest') (h : d.text.toList ++ rest = e.text.toList ++ rest') :
    d = e ∧ rest = rest' := by
  simp only [Date.toList_text, List.append_assoc, List.cons_append] at h
  obtain ⟨hyear, h⟩ := padded_mark_inj (by decide) h
  obtain ⟨hmonth, h⟩ := padded_mark_inj (by decide) h
  obtain ⟨hday, hsame⟩ := padded_append_inj hrest hrest' h
  obtain ⟨year, month, day⟩ := d
  obtain ⟨year', month', day'⟩ := e
  obtain ⟨rfl, rfl, rfl⟩ : year = year' ∧ month = month' ∧ day = day' := ⟨hyear, hmonth, hday⟩
  exact ⟨rfl, hsame⟩

theorem Date.text_injective {d e : Date} (h : d.text = e.text) : d = e := by
  refine (Date.text_append_inj endsNumber_nil endsNumber_nil ?_).1
  rw [h]

/-! ## Times -/

/-- What follows a time: nothing, or a character that is neither a digit nor a point. -/
def EndsTime (rest : List Char) : Prop := EndsNumber rest ∧ rest.head? ≠ some '.'

theorem fractionText_append_inj {f g : Nat} {rest rest' : List Char} (hrest : EndsTime rest)
    (hrest' : EndsTime rest')
    (h : (fractionText f).toList ++ rest = (fractionText g).toList ++ rest') :
    f = g ∧ rest = rest' := by
  have hpoint (n : Nat) (hn : n ≠ 0) : (fractionText n).toList = '.' :: (padded 6 n).toList := by
    simp [fractionText, hn]
  by_cases hf : f = 0
  · by_cases hg : g = 0
    · rw [hf, hg] at h ⊢
      exact ⟨rfl, h⟩
    · rw [hf, hpoint g hg] at h
      exact absurd (congrArg List.head? h) hrest.2
  · by_cases hg : g = 0
    · rw [hg, hpoint f hf] at h
      exact absurd (congrArg List.head? h).symm hrest'.2
    · rw [hpoint f hf, hpoint g hg] at h
      exact padded_append_inj hrest.1 hrest'.1 (List.cons.inj h).2

theorem endsNumber_fractionText_append {f : Nat} {rest : List Char} (hrest : EndsTime rest) :
    EndsNumber ((fractionText f).toList ++ rest) := by
  by_cases hf : f = 0
  · rw [hf]
    exact hrest.1
  · have hpoint : (fractionText f).toList = '.' :: (padded 6 f).toList := by
      simp [fractionText, hf]
    rw [hpoint]
    exact endsNumber_cons (by decide) _

/-- A time, and what follows it. -/
theorem DayTime.text_append_inj {t u : DayTime} {rest rest' : List Char} (hrest : EndsTime rest)
    (hrest' : EndsTime rest') (h : t.text.toList ++ rest = u.text.toList ++ rest') :
    t = u ∧ rest = rest' := by
  have htext (t : DayTime) (rest : List Char) : t.text.toList ++ rest =
      (padded 2 t.hour).toList ++ ':' :: ((padded 2 t.minute).toList ++ ':' ::
        ((padded 2 t.second).toList ++ ((fractionText t.micro).toList ++ rest))) := by
    simp [DayTime.text]
  rw [htext, htext] at h
  obtain ⟨hhour, h⟩ := padded_mark_inj (by decide) h
  obtain ⟨hminute, h⟩ := padded_mark_inj (by decide) h
  obtain ⟨hsecond, h⟩ := padded_append_inj (endsNumber_fractionText_append hrest)
    (endsNumber_fractionText_append hrest') h
  obtain ⟨hmicro, hsame⟩ := fractionText_append_inj hrest hrest' h
  obtain ⟨hour, minute, second, micro⟩ := t
  obtain ⟨hour', minute', second', micro'⟩ := u
  obtain ⟨rfl, rfl, rfl, rfl⟩ :
      hour = hour' ∧ minute = minute' ∧ second = second' ∧ micro = micro' :=
    ⟨hhour, hminute, hsecond, hmicro⟩
  exact ⟨rfl, hsame⟩

/-! ## Offsets -/

/-- What follows the minutes of an offset: nothing, or the seconds and their fraction. -/
def offsetRest (micros : Nat) : List Char :=
  if micros / 1000000 % 60 = 0 ∧ micros % 1000000 = 0 then []
  else ':' :: ((padded 2 (micros / 1000000 % 60)).toList ++
    (fractionText (micros % 1000000)).toList)

/-- The sign of an offset. -/
def offsetSign (offset : Int) : Char := if offset < 0 then '-' else '+'

theorem toList_offsetText (offset : Int) : (offsetText offset).toList = offsetSign offset ::
    ((padded 2 (offset.natAbs / 1000000 / 3600)).toList ++ ':' ::
      ((padded 2 (offset.natAbs / 1000000 / 60 % 60)).toList ++ offsetRest offset.natAbs)) := by
  rw [offsetText, offsetRest, offsetSign]
  split <;> split <;> simp

theorem endsNumber_offsetRest (micros : Nat) : EndsNumber (offsetRest micros) := by
  rw [offsetRest]
  split
  · exact endsNumber_nil
  · exact endsNumber_cons (by decide) _

theorem offsetRest_inj {m n : Nat} (h : offsetRest m = offsetRest n) :
    m / 1000000 % 60 = n / 1000000 % 60 ∧ m % 1000000 = n % 1000000 := by
  have hends : EndsTime [] := ⟨endsNumber_nil, by decide⟩
  rw [offsetRest, offsetRest] at h
  split at h <;> split at h
  next hm hn => exact ⟨hm.1.trans hn.1.symm, hm.2.trans hn.2.symm⟩
  next => cases h
  next => cases h
  next =>
    rw [← List.append_nil (String.toList (fractionText _)),
      ← List.append_nil (String.toList (fractionText (n % 1000000)))] at h
    obtain ⟨hsecond, h⟩ := padded_append_inj (endsNumber_fractionText_append hends)
      (endsNumber_fractionText_append hends) (List.cons.inj h).2
    exact ⟨hsecond, (fractionText_append_inj hends hends h).1⟩

theorem offsetText_injective {o p : Int} (h : offsetText o = offsetText p) : o = p := by
  have h := congrArg String.toList h
  rw [toList_offsetText, toList_offsetText] at h
  obtain ⟨hsign, h⟩ := List.cons.inj h
  obtain ⟨hhours, h⟩ := padded_mark_inj (by decide) h
  obtain ⟨hminutes, h⟩ := padded_append_inj (endsNumber_offsetRest _) (endsNumber_offsetRest _) h
  obtain ⟨hseconds, hfraction⟩ := offsetRest_inj h
  -- the parts of a number in mixed radix are the number
  have hsize : o.natAbs = p.natAbs := by omega
  have hneg : o < 0 ↔ p < 0 := by
    rw [offsetSign, offsetSign] at hsign
    by_cases ho : o < 0 <;> by_cases hp : p < 0
    · exact iff_of_true ho hp
    · rw [if_pos ho, if_neg hp] at hsign
      cases hsign
    · rw [if_neg ho, if_pos hp] at hsign
      cases hsign
    · exact iff_of_false ho hp
  omega

/-- An offset that is known is not written like one that is not. -/
theorem offset_inj {o p : Option Int}
    (h : ((o.map offsetText).getD "").toList = ((p.map offsetText).getD "").toList) : o = p := by
  rcases o with _ | o <;> rcases p with _ | p
  · rfl
  · rw [Option.map_some, Option.getD_some, toList_offsetText] at h
    cases h
  · rw [Option.map_some, Option.getD_some, toList_offsetText] at h
    cases h
  · rw [offsetText_injective (String.toList_injective h)]

/-! ## Moments -/

theorem Moment.toList_display (m : Moment) : m.display.toList = m.date.text.toList ++ ' ' ::
    (m.time.text.toList ++ ((m.offset.map offsetText).getD "").toList) := by
  simp [Moment.display, Moment.textWith]

/-- Moments that read the same have the same day, time and offset. -/
theorem Moment.display_inj {m n : Moment} (h : m.display = n.display) :
    m.date = n.date ∧ m.time = n.time ∧ m.offset = n.offset := by
  have hends (offset : Option Int) : EndsTime ((offset.map offsetText).getD "").toList := by
    cases offset with
    | none => exact ⟨endsNumber_nil, by decide⟩
    | some o =>
      rw [Option.map_some, Option.getD_some, toList_offsetText, offsetSign]
      split <;> exact ⟨endsNumber_cons (by decide) _, by simp⟩
  have h := congrArg String.toList h
  rw [Moment.toList_display, Moment.toList_display] at h
  obtain ⟨hdate, h⟩ := Date.text_append_inj (endsNumber_cons (by decide) _)
    (endsNumber_cons (by decide) _) h
  obtain ⟨htime, h⟩ := DayTime.text_append_inj (hends m.offset) (hends n.offset)
    (List.cons.inj h).2
  exact ⟨hdate, htime, offset_inj h⟩

/-- Whether the offset is all that is known of the zone. -/
def Zone.isFixed : Zone → Bool
  | fixed _ => true
  | region _ _ _ _ => false

/-- Whether the moment is in no region. -/
def Moment.isPlain (m : Moment) : Bool := m.zone.all Zone.isFixed

theorem Zone.eq_of_isFixed {z w : Option Zone} (hz : z.all isFixed = true)
    (hw : w.all isFixed = true) (h : z.map offset = w.map offset) : z = w := by
  rcases z with _ | ⟨o⟩ | _ <;> rcases w with _ | ⟨p⟩ | _ <;> simp_all [isFixed, offset]

/-- No two moments without a region read the same in a message. -/
theorem Moment.display_injective {m n : Moment} (hm : m.isPlain = true) (hn : n.isPlain = true)
    (h : m.display = n.display) : m = n := by
  obtain ⟨hdate, htime, hoffset⟩ := Moment.display_inj h
  obtain ⟨date, time, zone⟩ := m
  rw [Moment.mk.injEq]
  exact ⟨hdate, htime, Zone.eq_of_isFixed hm hn hoffset⟩

end Verdict
