import Verdict.Proofs.Check.Building

/-!
# What a check makes of a value

A run of a check on a value ends in one of three ways, which do not depend on the element or on the
result it starts from: the check admits the value and adds nothing, it refuses the value and adds
one failure, or it cannot be asked of the value and ends in a fault. No two of them go together.
For a check that is fit they are what its answer says (`Fit.admits_iff`, `Fit.refuses_iff`,
`Fit.raises_iff`), so checks are compared by their answers.
-/

namespace Verdict.Check

/-- A run on the value adds nothing. -/
def Admits (c : Check) (v : Value) : Prop :=
  ∀ (ν : Type) (id : Option Identifier) (r : Result),
    (Rule.check c : Rule ν).run v id r = .done r

/-- A run on the value adds one failure, of the element and under the code of the check. -/
def Refuses (c : Check) (v : Value) : Prop :=
  ∀ (ν : Type) (id : Identifier) (r : Result), ∃ f, f.identifier = id ∧ f.code = c.code.text ∧
    (Rule.check c : Rule ν).run v (some id) r = .done (r.add f)

/-- A run on the value ends in the fault and leaves the result as it was. -/
def Raises (c : Check) (v : Value) (fault : Fault) : Prop :=
  ∀ (ν : Type) (id : Option Identifier) (r : Result),
    (Rule.check c : Rule ν).run v id r = .stopped r fault

/-- The check has an answer for the value. -/
def Decides (c : Check) (v : Value) : Prop := c.Admits v ∨ c.Refuses v

variable {c : Check} {v : Value} {fault : Fault}

/-! ## No two together -/

theorem Refuses.not_admits (h : c.Refuses v) : ¬c.Admits v := by
  intro hadmits
  obtain ⟨f, -, -, hrun⟩ := h Unit ⟨.field, ""⟩ .empty
  have hsame := (hadmits Unit (some ⟨.field, ""⟩) .empty).symm.trans hrun
  have hfailures : [] = [] ++ [f] := congrArg (fun o => o.result.failures) hsame
  cases hfailures

theorem Raises.not_admits (h : c.Raises v fault) : ¬c.Admits v := by
  intro hadmits
  have hsame := (hadmits Unit none .empty).symm.trans (h Unit none .empty)
  cases congrArg Outcome.fault hsame

theorem Raises.not_refuses (h : c.Raises v fault) : ¬c.Refuses v := by
  intro hrefuses
  obtain ⟨f, -, -, hrun⟩ := hrefuses Unit ⟨.field, ""⟩ .empty
  have hsame := hrun.symm.trans (h Unit (some ⟨.field, ""⟩) .empty)
  cases congrArg Outcome.fault hsame

/-- Where a check has an answer, it refuses what it does not admit. -/
theorem Decides.refuses_iff (h : c.Decides v) : c.Refuses v ↔ ¬c.Admits v :=
  ⟨Refuses.not_admits, h.resolve_left⟩

/-! ## As the check answers -/

theorem admits_of_answer (h : c.answer v = .ok true) : c.Admits v := by
  intro ν id r
  rw [Rule.run, judge_eq, h]
  rfl

theorem raises_of_answer (h : c.answer v = .error fault) : c.Raises v fault := by
  intro ν id r
  rw [Rule.run, judge_eq, h]
  rfl

/-- A value that is refused adds one failure, which is one of the element. -/
theorem Fit.run_of_refused {ν : Type} (hfit : c.Fit) (h : c.answer v = .ok false)
    (id : Identifier) (r : Result) :
    ∃ f, c.Reports id f ∧ (Rule.check c : Rule ν).run v (some id) r = .done (r.add f) := by
  obtain ⟨f, hf, hreports⟩ := hfit.exists_failure v id
  refine ⟨f, hreports, ?_⟩
  rw [Rule.run, judge_eq, h]
  simp only [Except.bind, hf]
  rfl

theorem Fit.refuses_of_answer (hfit : c.Fit) (h : c.answer v = .ok false) : c.Refuses v := by
  intro ν id r
  obtain ⟨f, hreports, hrun⟩ := hfit.run_of_refused (ν := ν) h id r
  exact ⟨f, hreports.identifier, hreports.code, hrun⟩

theorem Fit.admits_iff (hfit : c.Fit) : c.Admits v ↔ c.answer v = .ok true := by
  refine ⟨fun h => ?_, admits_of_answer⟩
  rcases hanswer : c.answer v with fault | _ | _
  · exact absurd h (raises_of_answer hanswer).not_admits
  · exact absurd h (hfit.refuses_of_answer hanswer).not_admits
  · rfl

theorem Fit.refuses_iff (hfit : c.Fit) : c.Refuses v ↔ c.answer v = .ok false := by
  refine ⟨fun h => ?_, hfit.refuses_of_answer⟩
  rcases hanswer : c.answer v with fault | _ | _
  · exact absurd h (raises_of_answer hanswer).not_refuses
  · rfl
  · exact absurd (admits_of_answer hanswer) h.not_admits

theorem Fit.raises_iff (hfit : c.Fit) : c.Raises v fault ↔ c.answer v = .error fault := by
  refine ⟨fun h => ?_, raises_of_answer⟩
  rcases hanswer : c.answer v with other | _ | _
  · have hsame := (h Unit none .empty).symm.trans (raises_of_answer hanswer Unit none .empty)
    rw [Option.some.inj (congrArg Outcome.fault hsame)]
  · exact absurd (hfit.refuses_of_answer hanswer) h.not_refuses
  · exact absurd (admits_of_answer hanswer) h.not_admits

theorem Fit.decides_of_answer {b : Bool} (hfit : c.Fit) (h : c.answer v = .ok b) :
    c.Decides v := by
  cases b with
  | true => exact .inl (admits_of_answer h)
  | false => exact .inr (hfit.refuses_of_answer h)

/-- Nothing is admitted without a question, where the check skips it. -/
theorem admits_null (h : c.skipsNull = true) : c.Admits .null :=
  admits_of_answer (if_pos (by rw [h]; rfl))

/-- The question is asked of every other value. -/
theorem answer_of_isNull_eq_false (h : v.isNull = false) : c.answer v = c.test v :=
  if_neg (by rw [h, Bool.and_false]; exact Bool.false_ne_true)

/-- A check that is accepted is the one that was to be, and its shape keeps the contract. -/
theorem accept_eq_ok_iff {d : Check} : c.accept = .ok d ↔ c.shape.Sound ∧ d = c := by
  constructor
  · intro h
    obtain ⟨_, hchecked, rfl⟩ := exists_of_map_eq_ok h
    obtain ⟨p, hp, -⟩ := exists_of_map_eq_ok hchecked
    exact ⟨⟨p, hp⟩, rfl⟩
  · rintro ⟨⟨p, hp⟩, rfl⟩
    rw [accept, Shape.check, hp]
    rfl

end Verdict.Check
