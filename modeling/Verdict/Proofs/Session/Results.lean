import Verdict.Proofs.Session.Breaker

/-!
# The results of a session

What a session does to its results is what callers could do to them by hand: it makes results, adds
failures and runs rules (`leadsTo_act`). The results of a session therefore have a history of their
own (`exists_actions_after`), and what holds after every history of results holds in every session;
that they are consistent, in particular (`consistent_after`).
-/

namespace Verdict

/-- One forest comes from another by some actions. -/
def Forest.LeadsTo (ν : Type) (f g : Forest) : Prop :=
  ∃ actions : List (Action ν), g = actions.foldl (fun f a => (f.act a).1) f

namespace Forest.LeadsTo

variable {ν : Type} {f g h : Forest}

theorem refl (f : Forest) : LeadsTo ν f f := ⟨[], rfl⟩

theorem act (f : Forest) (a : Action ν) : LeadsTo ν f (f.act a).1 := ⟨[a], rfl⟩

theorem trans (hfg : LeadsTo ν f g) (hgh : LeadsTo ν g h) : LeadsTo ν f h := by
  obtain ⟨actions, rfl⟩ := hfg
  obtain ⟨more, rfl⟩ := hgh
  exact ⟨actions ++ more, List.foldl_append.symm⟩

/-- Adding failures one by one is some actions. -/
theorem addAll (f : Forest) (i : Nat) (xs : List Failure) : LeadsTo ν f (f.addAll i xs) := by
  induction xs generalizing f with
  | nil => exact refl f
  | cons x rest ih => exact (act f (.add i x)).trans (ih (f.add i x))

/-- What actions lead to is consistent, if they begin with what is. -/
theorem consistent (hfg : LeadsTo ν f g) (hf : f.Consistent) : g.Consistent := by
  obtain ⟨actions, rfl⟩ := hfg
  induction actions generalizing f with
  | nil => exact hf
  | cons a rest ih => exact ih (hf.act a)

end Forest.LeadsTo

namespace Session

variable {ν : Type}

theorem results_select (s : Session) (v : Nat) (identifier : Option Identifier)
    (source : ValueSource) : (s.select v identifier source : Turn ν Nat).session.results =
      s.results := by
  rw [select]
  rcases s.validators[v]? with _ | validator
  · rfl
  · rcases hvalue : valueFrom validator.target source with fault | value
    · simp only [hvalue, Turn.stopped]
    · simp only [hvalue]
      rfl

theorem results_selectWithin (s : Session) (p : Nat) (identifier : Option Identifier)
    (extract : Value → Except Fault Value) :
    (s.selectWithin p identifier extract : Turn ν Nat).session.results = s.results := by
  rw [selectWithin]
  rcases s.selections[p]? with _ | selection
  · rfl
  rcases hval : s.validators[selection.parent]? with _ | validator
  · simp only [hval, Turn.stopped]
  simp only [hval, addValidator, select, List.getElem?_concat_length]
  rcases valueFrom selection.value (.read extract) with fault | value
  · rfl
  · rfl

theorem results_trip (s : Session) (v : Nat) (reason : String) :
    (s.trip v reason).1.results = s.results := by
  rw [trip]
  rcases s.validators[v]? with _ | validator
  · rfl
  · rfl

theorem results_shortCircuitIf (s : Session) (v : Nat) (condition : ResultCondition) :
    (s.shortCircuitIf v condition : Turn ν Unit).session.results = s.results := by
  rw [shortCircuitIf]
  rcases s.resultOf v with _ | result
  · rfl
  · rcases hcond : condition result with fault | _ | _
    · simp only [hcond, Turn.stopped]
    · simp only [hcond, Turn.done]
    · simp only [hcond, results_trip]

theorem results_silenceIf (s : Session) (p : Nat) (condition : ResultCondition) :
    (s.silenceIf p condition : Turn ν Unit).session.results = s.results := by
  rw [silenceIf]
  rcases s.selections[p]? with _ | selection
  · rfl
  rcases hresult : s.resultOf selection.parent with _ | result
  · simp only [hresult, Turn.stopped]
  rcases hcond : condition result with fault | _ | _
  · simp only [hresult, hcond, Turn.stopped]
  · simp only [hresult, hcond, Turn.done]
  · simp only [hresult, hcond, Turn.done]

theorem results_watch (s : Session) (p : Nat) (watcher : Value → Except Fault (List ν)) :
    (s.watch p watcher).session.results = s.results := by
  rw [watch]
  rcases s.selections[p]? with _ | selection
  · rfl
  by_cases hskip : (s.isSilent p || selection.value.isNull) = true
  · simp only [if_pos hskip, Turn.done]
  · simp only [if_neg hskip]
    rcases watcher selection.value with fault | notes
    · rfl
    · rfl

/-- Applying a rule leaves the results alone, or runs the guarded rule on one of them for the
property. -/
theorem results_apply (s : Session) (p : Nat) (guard : Guard) (rule : Rule ν) :
    (s.apply p guard rule).session.results = s.results ∨
      ∃ selection i r, s.selections[p]? = some selection ∧ s.results.view i = some r ∧
        (s.apply p guard rule).session.results = s.results.setOwn i
          ((guard.wrap selection.identifier rule).run selection.value selection.identifier
            r).result.own := by
  rw [apply]
  rcases s.selections[p]? with _ | selection
  · exact .inl rfl
  by_cases hsilent : s.isSilent p = true
  · simp only [if_pos hsilent]
    exact .inl rfl
  simp only [if_neg hsilent]
  rcases s.validators[selection.parent]? with _ | validator
  · exact .inl rfl
  simp only [runInto]
  rcases hview : s.results.view validator.result with _ | r
  · exact .inl rfl
  · exact .inr ⟨selection, validator.result, r, rfl, hview, rfl⟩

theorem leadsTo_apply (s : Session) (p : Nat) (guard : Guard) (rule : Rule ν) :
    Forest.LeadsTo ν s.results (s.apply p guard rule).session.results := by
  rcases s.results_apply p guard rule with hsame | ⟨selection, i, r, -, hr, hran⟩
  · rw [hsame]
    exact .refl s.results
  · have hrun := Forest.LeadsTo.act s.results
      (.run i (guard.wrap selection.identifier rule) selection.value selection.identifier)
    rw [Forest.act, hr] at hrun
    rw [hran]
    exact hrun

theorem leadsTo_circuitBreaker (s : Session) (v : Nat) (value : Value) (id : Option Identifier)
    (rule : Rule ν) :
    Forest.LeadsTo ν s.results (s.circuitBreaker v value id rule).session.results := by
  rcases hval : s.validators[v]? with _ | validator
  · rw [circuitBreaker, hval]
    exact .refl _
  rcases hfault : (rule.run value id .empty).fault with _ | fault
  · by_cases hfound : (rule.run value id .empty).result.failures = []
    · rw [circuitBreaker_of_clean hval hfault hfound]
      exact .refl _
    · rw [circuitBreaker_of_found hval hfault hfound]
      exact .addAll ..
  · rw [circuitBreaker_of_fault hval hfault]
    exact .refl _

theorem leadsTo_merge (s : Session) (v other : Nat) :
    Forest.LeadsTo ν s.results (s.merge v other : Turn ν Unit).session.results := by
  rw [merge]
  rcases s.validators[v]? with _ | validator
  · exact .refl _
  · rcases s.resultOf other with _ | result
    · exact .refl _
    · exact .addAll ..

/-- A call does to the results what some actions on them do. -/
theorem leadsTo_act (s : Session) (c : Call ν) :
    Forest.LeadsTo ν s.results (s.act c).session.results := by
  cases c with
  | result action => exact .act s.results action
  | openFresh target short => exact .act s.results (.create none)
  | openOn target r short =>
    rw [act, openOn]
    rcases s.results.view r with _ | result
    · exact .refl _
    · exact .refl _
  | openOver target parent =>
    cases parent with
    | none => exact .refl _
    | some parent => exact .act s.results (.create (some parent))
  | select v identifier source =>
    rw [act, Turn.discard, results_select]
    exact .refl _
  | selectWithin p identifier extract =>
    rw [act, Turn.discard, results_selectWithin]
    exact .refl _
  | apply p guard rule => exact s.leadsTo_apply p guard rule
  | watch p watcher =>
    rw [act, results_watch]
    exact .refl _
  | circuitBreaker v value id rule => exact s.leadsTo_circuitBreaker v value id rule
  | shortCircuitIf v condition =>
    rw [act, results_shortCircuitIf]
    exact .refl _
  | shortCircuitIfErrors v =>
    rw [act, shortCircuitIfErrors, results_shortCircuitIf]
    exact .refl _
  | silenceIf p condition =>
    rw [act, results_silenceIf]
    exact .refl _
  | silenceIfErrors p =>
    rw [act, silenceIfErrors]
    rcases s.selections[p]? with _ | selection
    · exact .refl _
    · simp only [results_silenceIf]
      exact .refl _
  | merge v other => exact s.leadsTo_merge v other

theorem leadsTo_follow (s : Session) (calls : List (Call ν)) :
    Forest.LeadsTo ν s.results (s.follow calls).results :=
  follow_induction (P := fun t => Forest.LeadsTo ν s.results t.results)
    (fun t c h => h.trans (t.leadsTo_act c)) (.refl s.results) calls

/-- **The results of a session have a history of their own.** -/
theorem exists_actions_after (calls : List (Call ν)) :
    ∃ actions : List (Action ν), (after calls).results = Forest.after actions :=
  leadsTo_follow empty calls

/-- Every result of a session is consistent. -/
theorem consistent_after (calls : List (Call ν)) : (after calls).results.Consistent := by
  obtain ⟨actions, h⟩ := exists_actions_after calls
  rw [h]
  exact Forest.consistent_after actions

end Session

end Verdict
