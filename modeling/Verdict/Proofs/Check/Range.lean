import Verdict.Proofs.Check.Arguments
import Verdict.Proofs.Rule.Chaining
import Verdict.Proofs.Value.Order

/-!
# Ranges of numbers

A range is refused when it is built if its lower end lies above its upper end, and only then
(`build_inRange`). For two ends that are ordered this is the same as to ask that the lower one is at
most the upper one, and a range that is built contains both. The undefined number is not above
anything, so a range with such an end is built as well, and nothing is in it. `inRange_ends` has
both cases.
-/

namespace Verdict

variable {minimum maximum v : Value}

/-- Two numbers are the ends of a range unless the lower one lies above the upper one. -/
theorem requireRange_numeric (hmin : minimum.isNumeric = true) (hmax : maximum.isNumeric = true)
    {inverted : Bool} (h : minimum.related .above maximum = .ok inverted) :
    requireRange minimum maximum false =
      if inverted then .error (invertedRange minimum maximum) else .ok () := by
  rw [requireRange, Value.isNull_of_isNumeric hmin, Value.isNull_of_isNumeric hmax, h]
  cases inverted <;> rfl

namespace Check

variable {c : Check}

theorem passes_eq_of_answer {b : Bool} (h : c.answer v = .ok b) : c.passes v = b := by
  rw [passes, h]
  cases b <;> rfl

end Check

namespace NumberCheck

/-- The check of a range. -/
def rangeCheck (minimum maximum : Value) : Check :=
  ⟨.range, .bounds Parameter.min minimum Parameter.max maximum false, true,
    Value.within minimum maximum, fun _ => []⟩

/-- **A range of numbers is refused if it is inverted**, and only then. -/
theorem build_inRange (hmin : minimum.isNumeric = true) (hmax : maximum.isNumeric = true)
    {inverted : Bool} (h : minimum.related .above maximum = .ok inverted) :
    (inRange minimum maximum).build =
      if inverted then .error (invertedRange minimum maximum)
      else .ok (rangeCheck minimum maximum) := by
  rw [build, Check.accept, Shape.check, Shape.parameters, requireRange_numeric hmin hmax h]
  cases inverted <;> rfl

theorem answer_rangeCheck (hv : v.isNumeric = true) :
    (rangeCheck minimum maximum).answer v = Value.within minimum maximum v :=
  Check.answer_of_isNull_eq_false (Value.isNull_of_isNumeric hv)

/-- **A range that is built contains its ends, if these are ordered.** A range of two numbers is
refused, with a fault of its arguments, if the lower end lies above the upper one, and is built
otherwise. If neither end is undefined, the lower one is at most the upper one then, and both pass.
If one is, the lower one is not at most the upper one, and every number is refused. -/
theorem inRange_ends (hmin : minimum.isNumeric = true) (hmax : maximum.isNumeric = true) :
    let request : Request := .number (.inRange minimum maximum)
    (minimum.related .above maximum = .ok true → ∃ fault, request.build = .error fault ∧
      fault.family = .value) ∧
    (minimum.related .above maximum = .ok false → ∃ c, request.build = .ok c) ∧
    ∀ c, request.build = .ok c →
      (minimum ≠ .undefined → maximum ≠ .undefined →
        minimum.related .atMost maximum = .ok true ∧
        ∀ v ∈ [minimum, maximum], ∀ (ν : Type) (id : Option Identifier) (r : Result),
          (Rule.check c : Rule ν).run v id r = .done r) ∧
      (minimum = .undefined ∨ maximum = .undefined →
        minimum.related .atMost maximum = .ok false ∧
        ∀ v, v.isNumeric = true → ∀ (ν : Type) (id : Identifier) (r : Result),
          ∃ f, f.identifier = id ∧ f.code = Code.range.text ∧
            (Rule.check c : Rule ν).run v (some id) r = .done (r.add f)) := by
  intro request
  obtain ⟨inverted, habove⟩ : ∃ inverted, minimum.related .above maximum = .ok inverted :=
    ⟨_, Value.related_numeric _ hmin hmax⟩
  have hbuild : request.build = _ := build_inRange hmin hmax habove
  refine ⟨fun h => ?_, fun h => ?_, fun c hc => ?_⟩
  · obtain rfl := Except.ok.inj (habove.symm.trans h)
    exact ⟨_, hbuild, family_invertedRange minimum maximum⟩
  · obtain rfl := Except.ok.inj (habove.symm.trans h)
    exact ⟨_, hbuild⟩
  · have hfit : c.Fit := Request.fit_of_build hc rfl
    rw [hbuild] at hc
    cases inverted with
    | true => cases hc
    | false =>
      obtain rfl := Except.ok.inj hc
      refine ⟨fun hmin' hmax' => ?_, fun hundefined => ?_⟩
      · have hle : minimum.related .atMost maximum = .ok true :=
          (Value.related_atMost_iff hmin hmax hmin' hmax').mpr habove
        have hpasses {v : Value} (hv : v.isNumeric = true)
            (hlower : minimum.related .atMost v = .ok true)
            (hupper : v.related .atMost maximum = .ok true) :
            (rangeCheck minimum maximum).passes v = true := by
          refine Check.passes_eq_of_answer ?_
          rw [answer_rangeCheck hv, Value.within_of_related hlower hupper]
          rfl
        refine ⟨hle, fun v hv ν id r => Check.run_of_passes ?_⟩
        rcases List.mem_pair.mp hv with rfl | rfl
        · exact hpasses hmin (Value.related_atMost_self hmin hmin') hle
        · exact hpasses hmax hle (Value.related_atMost_self hmax hmax')
      · refine ⟨Value.related_of_undefined _ hmin hmax hundefined, fun v hv ν id r => ?_⟩
        have hrefused : (rangeCheck minimum maximum).answer v = .ok false := by
          rw [answer_rangeCheck hv, Value.within_of_undefined hmin hmax hundefined hv]
        obtain ⟨f, hreports, hrun⟩ := hfit.run_of_refused (ν := ν) hrefused id r
        exact ⟨f, hreports.identifier, hreports.code, hrun⟩

/-- A range with an integer that no number in floating point is, one more than `2 ^ 53`, and an
infinite end; and one that is inverted by less than floating point can tell. -/
theorem inRange_ends_exact :
    let large : Value := .int 9007199254740993
    let rounded : Value := .float (.ofInt 9007199254740993)
    let infinite : Value := .float (.infinite false)
    large.isNumeric = true ∧ rounded.isNumeric = true ∧ infinite.isNumeric = true ∧
      (∃ c, (Request.number (.inRange large infinite)).build = .ok c ∧
        large.related .atMost infinite = .ok true ∧
        (Rule.check c : Rule Unit).run infinite none .empty = .done .empty) ∧
      (∃ fault, (Request.number (.inRange large rounded)).build = .error fault ∧
        fault.family = .value) ∧
      ∃ c, (Request.number (.inRange .undefined large)).build = .ok c ∧
        ∃ f, f.identifier = (⟨.field, "age"⟩ : Identifier) ∧ f.code = Code.range.text ∧
          (Rule.check c : Rule Unit).run large (some ⟨.field, "age"⟩) .empty =
            .done (Result.empty.add f) := by
  intro large rounded infinite
  have hl : large.isNumeric = true := rfl
  have hr : rounded.isNumeric = true := rfl
  have hi : infinite.isNumeric = true := rfl
  have hu : Value.undefined.isNumeric = true := rfl
  have hinfinite : large.related .above infinite = .ok false := by decide +kernel
  have hrounded : large.related .above rounded = .ok true := by decide +kernel
  have hundefined : Value.undefined.related .above large = .ok false := by decide +kernel
  obtain ⟨-, hbuilt, hends⟩ := inRange_ends hl hi
  obtain ⟨c, hc⟩ := hbuilt hinfinite
  obtain ⟨hle, hpass⟩ := (hends c hc).1 Value.noConfusion fun h => nomatch Value.float.inj h
  obtain ⟨-, hbuilt', hends'⟩ := inRange_ends hu hl
  obtain ⟨c', hc'⟩ := hbuilt' hundefined
  exact ⟨hl, hr, hi, ⟨c, hc, hle, hpass infinite (by simp) Unit none .empty⟩,
    (inRange_ends hl hr).1 hrounded,
    c', hc', ((hends' c' hc').2 (.inl rfl)).2 large hl Unit _ .empty⟩

/-- A range from the undefined number is built although that is not at most the upper end, and
neither end is in it. -/
theorem inRange_accepts_undefined : ∃ c,
    (Request.number (.inRange .undefined (.int 1))).build = .ok c ∧
      Value.undefined.related .atMost (.int 1) = .ok false ∧
      c.passes .undefined = false ∧ c.passes (.int 1) = false :=
  ⟨rangeCheck .undefined (.int 1), rfl, rfl, rfl, rfl⟩

end NumberCheck

end Verdict
