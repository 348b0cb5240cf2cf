import Verdict.Proofs.Check.Arguments
import Verdict.Proofs.Value.Order

/-!
# Checks with two sides

A range asks for a lower and an upper bound at once, and an exact length for one that is both. Each
of these checks has an implementation of its own, and two checks beside it that ask for one side.
What they have in common is the measure of the value that is compared: the value itself for
numbers, the size of a collection, the stripped length of a text. If the question of the check
about the measure is the one of both sides, it refuses what one of the sides refuses, and admits
what both admit (`Check.joins_of_measure`).

`Request.two_sided_split` has the three checks.
-/

namespace Verdict

variable {minimum maximum limit v w : Value}

/-! ## The measure and its two sides -/

namespace Value

/-- The two questions about a number, and the one that asks both at once. -/
theorem within_of_isNumeric (hw : w.isNumeric = true) (hmin : minimum.isNumeric = true)
    (hmax : maximum.isNumeric = true) : ∃ lower upper,
      w.related .atLeast minimum = .ok lower ∧ w.related .atMost maximum = .ok upper ∧
        within minimum maximum w = .ok (lower && upper) := by
  have hlower := related_numeric .atMost hmin hw
  have hupper := related_numeric .atMost hw hmax
  exact ⟨_, _, (related_atLeast_eq hw).trans hlower, hupper, within_of_related hlower hupper⟩

/-- To lie between a number and itself is to mean the same. -/
theorem within_self (hw : w.isNumeric = true) (hlimit : limit.isNumeric = true) :
    within limit limit w = .ok (w.equals limit) := by
  obtain ⟨lower, upper, hlower, hupper, hwithin⟩ := within_of_isNumeric hw hlimit hlimit
  rw [hwithin, equals_eq_of_related hw hlimit hlower hupper]

end Value

namespace Check

/-- The check asks of the value what two others ask of it together. -/
structure Joins (c lower upper : Check) (v : Value) : Prop where
  refuses : c.Refuses v ↔ lower.Refuses v ∨ upper.Refuses v
  admits : c.Admits v ↔ lower.Admits v ∧ upper.Admits v

variable {c lower upper : Check}

/-- Where none of the three can be asked, there is nothing to tell them apart. -/
theorem joins_of_raises {fault : Fault} (hc : c.Raises v fault) (hlower : lower.Raises v fault)
    (hupper : upper.Raises v fault) : c.Joins lower upper v where
  refuses := by simp only [hc.not_refuses, hlower.not_refuses, hupper.not_refuses, or_self]
  admits := by simp only [hc.not_admits, hlower.not_admits, hupper.not_admits, and_self]

/-- Three checks that ask about one number, two of them about a side and one about both. -/
theorem joins_of_measure (hc : c.Fit) (hl : lower.Fit) (hu : upper.Fit)
    (hw : w.isNumeric = true) (hmin : minimum.isNumeric = true) (hmax : maximum.isNumeric = true)
    (hlower : lower.answer v = w.related .atLeast minimum)
    (hupper : upper.answer v = w.related .atMost maximum)
    (hboth : c.answer v = Value.within minimum maximum w) :
    c.Joins lower upper v ∧ c.Decides v := by
  obtain ⟨x, y, hx, hy, hwithin⟩ := Value.within_of_isNumeric hw hmin hmax
  rw [hx] at hlower
  rw [hy] at hupper
  rw [hwithin] at hboth
  refine ⟨⟨?_, ?_⟩, hc.decides_of_answer hboth⟩
  · rw [hc.refuses_iff, hl.refuses_iff, hu.refuses_iff, hboth, hlower, hupper]
    cases x <;> cases y <;> simp
  · rw [hc.admits_iff, hl.admits_iff, hu.admits_iff, hboth, hlower, hupper]
    cases x <;> cases y <;> simp

end Check

/-! ## The checks -/

/-- What is asked for with both sides is accepted only if each side is. On all values of a kind, the
check then joins those of the two sides, and if the bounds can be compared with such values it
decides. None of the three fails on nothing. -/
def Request.SplitsInto (request lower upper : Request) (kind : Value → Prop)
    (comparable : Prop) : Prop :=
  ∀ c, request.build = .ok c → ∃ l u, lower.build = .ok l ∧ upper.build = .ok u ∧
    (∀ v, kind v → c.Joins l u v ∧ (comparable → c.Decides v)) ∧
      c.Admits .null ∧ l.Admits .null ∧ u.Admits .null

theorem NumberCheck.answer_inRange {c : Check} (h : (inRange minimum maximum).build = .ok c)
    (hv : v.isNumeric = true) : c.answer v = Value.within minimum maximum v := by
  obtain ⟨-, rfl⟩ := Check.accept_eq_ok_iff.mp h
  exact Check.answer_of_isNull_eq_false (Value.isNull_of_isNumeric hv)

theorem NumberCheck.inRange_splits (minimum maximum : Value) :
    (Request.number (.inRange minimum maximum)).SplitsInto (.number (.minValue minimum))
      (.number (.maxValue maximum)) (fun v => v.isNumeric = true)
      (minimum.isNumeric = true) := by
  intro c h
  have hc : c.Fit := Request.fit_of_build h rfl
  obtain ⟨hsound, rfl⟩ := Check.accept_eq_ok_iff.mp h
  have hrange := Shape.sound_bounds_iff.mp hsound
  obtain ⟨hmin, hmax⟩ := requireLimit_of_requireRange hrange
  have hl : (Request.number (.minValue minimum)).build = _ := Check.accept_bound (hmin _)
  have hu : (Request.number (.maxValue maximum)).build = _ := Check.accept_bound (hmax _)
  refine ⟨_, _, hl, hu, fun v hv => ?_, Check.admits_null rfl, Check.admits_null rfl,
    Check.admits_null rfl⟩
  have hsame : minimum.isNumeric = maximum.isNumeric :=
    Value.isNumeric_eq_of_related (related_of_requireRange hrange).2
  have hasked (d : Check) : d.answer v = d.test v :=
    Check.answer_of_isNull_eq_false (Value.isNull_of_isNumeric hv)
  rcases hnumeric : minimum.isNumeric with _ | _
  · -- bounds of another kind are accepted, but no number can be compared with them
    rw [hnumeric] at hsame
    have hraises {d : Check} (h : d.test v = .error .unsupported) : d.Raises v .unsupported :=
      Check.raises_of_answer ((hasked d).trans h)
    refine ⟨Check.joins_of_raises (hraises ?_) (hraises ?_) (hraises ?_), nofun⟩
    · exact Value.within_of_fault (Value.related_of_not_numeric _ hnumeric hv).1
    · exact (Value.related_of_not_numeric _ hnumeric hv).2
    · exact (Value.related_of_not_numeric _ hsame.symm hv).2
  · obtain ⟨hjoins, hdecides⟩ := Check.joins_of_measure hc (Request.fit_of_build hl rfl)
      (Request.fit_of_build hu rfl) hv hnumeric (hsame.symm.trans hnumeric) (hasked _) (hasked _)
      (hasked _)
    exact ⟨hjoins, fun _ => hdecides⟩

theorem Value.sizeValue?_of_size? {n : Nat} (h : v.size? = .ok n) :
    v.sizeValue? = .ok (.int n) := by
  rw [Value.sizeValue?, h]
  rfl

theorem Value.isNull_of_size? {n : Nat} (h : v.size? = .ok n) : v.isNull = false := by
  cases v with
  | null => cases h
  | _ => rfl

namespace CollectionCheck

variable {c : Check} {n : Nat}

theorem answer_sizeRange (h : (sizeRange minimum maximum).build = .ok c) (hv : v.size? = .ok n) :
    c.answer v = Value.within minimum maximum (.int n) := by
  obtain ⟨-, rfl⟩ := Check.accept_eq_ok_iff.mp h
  rw [Check.answer_of_isNull_eq_false (Value.isNull_of_size? hv)]
  simp only [Value.sizeValue?_of_size? hv]
  rfl

theorem sizeRange_splits (minimum maximum : Value) :
    (Request.collection (.sizeRange minimum maximum)).SplitsInto (.collection (.minSize minimum))
      (.collection (.maxSize maximum)) (fun v => ∃ n, v.size? = .ok n) True := by
  intro c h
  have hc : c.Fit := Request.fit_of_build h rfl
  have hanswer {v : Value} {n : Nat} := answer_sizeRange (v := v) (n := n) h
  obtain ⟨hsound, rfl⟩ := Check.accept_eq_ok_iff.mp h
  have hrange := Shape.sound_bounds_iff.mp hsound
  obtain ⟨hmin, hmax⟩ := requireLimit_of_requireRange hrange
  have hl : (Request.collection (.minSize minimum)).build = _ := Check.accept_bound (hmin _)
  have hu : (Request.collection (.maxSize maximum)).build = _ := Check.accept_bound (hmax _)
  refine ⟨_, _, hl, hu, ?_, Check.admits_null rfl, Check.admits_null rfl, Check.admits_null rfl⟩
  rintro v ⟨n, hv⟩
  have hasked (d : Check) : d.answer v = d.test v :=
    Check.answer_of_isNull_eq_false (Value.isNull_of_size? hv)
  obtain ⟨hminzero, hmaxzero⟩ := (related_of_requireRange hrange).1 rfl
  obtain ⟨hjoins, hdecides⟩ := Check.joins_of_measure hc (Request.fit_of_build hl rfl)
    (Request.fit_of_build hu rfl) (w := .int n) rfl (Value.isNumeric_eq_of_related hminzero)
    (Value.isNumeric_eq_of_related hmaxzero)
    ((hasked _).trans (by simp only [Value.sizeValue?_of_size? hv]; rfl))
    ((hasked _).trans (by simp only [Value.sizeValue?_of_size? hv]; rfl)) (hanswer hv)
  exact ⟨hjoins, fun _ => hdecides⟩

/-- The failure tells the size that was found. -/
theorem sizeRange_reports (h : (sizeRange minimum maximum).build = .ok c) (hv : v.size? = .ok n)
    (hrefuses : c.Refuses v) (ν : Type) (id : Identifier) (r : Result) :
    ∃ f, (Rule.check c : Rule ν).run v (some id) r = .done (r.add f) ∧
      f.parameters.get? Parameter.actualSize = some (.int n) := by
  have hc : c.Fit := (built_of_build h).fit rfl
  obtain ⟨g, hg, -⟩ := hc.exists_shape_failure id
  obtain ⟨f, hf, hparameters⟩ : ∃ f, c.failure v (some id) = .ok f ∧
      f.parameters = g.parameters.overlay (c.details v) := by
    rw [Check.failure_eq, hg]
    exact ⟨_, rfl, rfl⟩
  have hdetails : c.details v = [(Parameter.actualSize, .int n)] := by
    obtain ⟨-, rfl⟩ := Check.accept_eq_ok_iff.mp h
    simp only [actualSize, hv]
  refine ⟨f, ?_, ?_⟩
  · rw [Rule.run, Check.judge_eq, hc.refuses_iff.mp hrefuses]
    simp only [Except.bind, hf]
    rfl
  · rw [hparameters, hdetails, Table.get?_overlay]
    rfl

end CollectionCheck

theorem TextCheck.exactLength_splits (length : Value) :
    (Request.text (.exactLength length)).SplitsInto (.text (.minLength length))
      (.text (.maxLength length)) (fun v => ∃ s, v = .text s) True := by
  intro c h
  have hc : c.Fit := Request.fit_of_build h rfl
  obtain ⟨hsound, rfl⟩ := Check.accept_eq_ok_iff.mp h
  have hlimit := Shape.sound_bound_iff.mp hsound
  have hnumeric : length.isNumeric = true :=
    Value.isNumeric_eq_of_related (related_of_requireLimit hlimit)
  have hside (key : String) : requireLimit key length true = .ok () :=
    requireLimit_of_given (isNull_of_requireLimit hlimit)
      (fun _ => related_of_requireLimit hlimit) key
  have hl : (Request.text (.minLength length)).build = _ := Check.accept_bound (hside _)
  have hu : (Request.text (.maxLength length)).build = _ := Check.accept_bound (hside _)
  refine ⟨_, _, hl, hu, ?_, Check.admits_null rfl, Check.admits_null rfl, Check.admits_null rfl⟩
  rintro _ ⟨s, rfl⟩
  -- the check asks for the very length, which is to lie between the length and itself
  have hboth : (Except.ok ((Value.int (strippedLength s)).equals length) : Except Fault Bool) =
      Value.within length length (.int (strippedLength s)) := (Value.within_self rfl hnumeric).symm
  obtain ⟨hjoins, hdecides⟩ := Check.joins_of_measure (v := .text s) hc
    (Request.fit_of_build hl rfl) (Request.fit_of_build hu rfl) (w := .int (strippedLength s)) rfl
    hnumeric hnumeric rfl rfl hboth
  exact ⟨hjoins, fun _ => hdecides⟩

/-- **A check with two sides says what its two sides say.** Whatever bounds it is accepted with,
each side is accepted with its own. A range of numbers refuses a number, whole, truth value or in
floating point, that lies below the lower bound or above the upper one by the checks for these; a
range of sizes, a collection of any kind; an exact length, a text. A range of sizes then tells the
size. On nothing, none of them fails. -/
theorem Request.two_sided_split :
    (∀ minimum maximum, (Request.number (.inRange minimum maximum)).SplitsInto
      (.number (.minValue minimum)) (.number (.maxValue maximum)) (fun v => v.isNumeric = true)
      (minimum.isNumeric = true)) ∧
    (∀ minimum maximum, (Request.collection (.sizeRange minimum maximum)).SplitsInto
      (.collection (.minSize minimum)) (.collection (.maxSize maximum))
      (fun v => ∃ n, v.size? = .ok n) True) ∧
    (∀ minimum maximum c, (Request.collection (.sizeRange minimum maximum)).build = .ok c →
      ∀ v (n : Nat), v.size? = .ok n → c.Refuses v → ∀ (ν : Type) (id : Identifier) (r : Result),
        ∃ f, (Rule.check c : Rule ν).run v (some id) r = .done (r.add f) ∧
          f.parameters.get? Parameter.actualSize = some (.int n)) ∧
    ∀ length, (Request.text (.exactLength length)).SplitsInto (.text (.minLength length))
      (.text (.maxLength length)) (fun v => ∃ s, v = .text s) True :=
  ⟨NumberCheck.inRange_splits, CollectionCheck.sizeRange_splits,
    fun _ _ _ h _ _ hv hrefuses => CollectionCheck.sizeRange_reports h hv hrefuses,
    TextCheck.exactLength_splits⟩

/-- A lower bound that no number in floating point is, and the number that it is rounded to, which
lies below it; a tuple of three, where one or two are asked for, the bounds being a truth value and
a number in floating point; and a text of two characters among blank ones. -/
theorem Request.two_sided_split_rounded :
    let large : Value := .int 9007199254740993
    let rounded : Value := .float (.ofInt 9007199254740993)
    let infinite : Value := .float (.infinite false)
    let three : Value := .tuple [.null, .bool true, .int 1]
    ∃ c l u d e, (Request.number (.inRange large infinite)).build = .ok c ∧
      (Request.number (.minValue large)).build = .ok l ∧
      (Request.number (.maxValue infinite)).build = .ok u ∧
      c.Refuses rounded ∧ (l.Refuses rounded ∨ u.Refuses rounded) ∧ c.Admits .null ∧
      (Request.collection (.sizeRange (.bool true) (.float (.ofInt 2)))).build = .ok d ∧
      three.size? = .ok 3 ∧ d.Refuses three ∧
      (∃ f, (Rule.check d : Rule Unit).run three (some ⟨.field, "tags"⟩) .empty =
          .done (Result.empty.add f) ∧
        f.parameters.get? Parameter.actualSize = some (.int 3)) ∧
      (Request.text (.exactLength (.int 2))).build = .ok e ∧ e.Decides (.text " ab\t") := by
  intro large rounded infinite three
  have hranges (minimum maximum : Value) (h : requireRange minimum maximum false = .ok ()) :
      ∃ c, (Request.number (.inRange minimum maximum)).build = .ok c :=
    ⟨_, Check.accept_bounds h⟩
  have hsizes (minimum maximum : Value) (h : requireRange minimum maximum true = .ok ()) :
      ∃ c, (Request.collection (.sizeRange minimum maximum)).build = .ok c :=
    ⟨_, Check.accept_bounds h⟩
  have hlengths (length : Value) (h : requireLimit Parameter.exactLength length true = .ok ()) :
      ∃ c, (Request.text (.exactLength length)).build = .ok c :=
    ⟨_, Check.accept_bound h⟩
  obtain ⟨c, hc⟩ := hranges large infinite (by decide +kernel)
  obtain ⟨d, hd⟩ := hsizes (.bool true) (.float (.ofInt 2)) (by decide +kernel)
  obtain ⟨e, he⟩ := hlengths (.int 2) (by decide +kernel)
  obtain ⟨hsplits, -, hreports, hsplits'⟩ := Request.two_sided_split
  obtain ⟨l, u, hl, hu, hjoins, hnull, -⟩ := hsplits large infinite c hc
  obtain ⟨_, _, -, -, htexts, -⟩ := hsplits' (.int 2) e he
  have hc' : c.Refuses rounded := by
    refine (Request.fit_of_build hc rfl).refuses_of_answer ?_
    rw [NumberCheck.answer_inRange hc rfl]
    decide +kernel
  have hd' : d.Refuses three := by
    refine (Request.fit_of_build hd rfl).refuses_of_answer ?_
    rw [CollectionCheck.answer_sizeRange hd (n := 3) rfl]
    decide +kernel
  exact ⟨c, l, u, d, e, hc, hl, hu, hc', (hjoins rounded rfl).1.refuses.mp hc', hnull, hd, rfl, hd',
    hreports _ _ d hd three 3 rfl hd' Unit _ _, he, (htexts _ ⟨_, rfl⟩).2 trivial⟩

end Verdict
