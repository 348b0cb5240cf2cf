import Verdict.Proofs.Session.History

/-!
# What a call changes

Of the validators and selections of a session, one call adds or changes very little. `Change` lists
the ways, with the log records that go with each, and `act_change` says that there are no others.
Whatever holds of the members of a session along a run is read off it, a case for each way.
-/

namespace Verdict.Session

variable {ν : Type}

/-- What a call on `s` does to the members when `t` is the session afterwards. -/
inductive Change (s : Session) (c : Call ν) (t : Session) (logs : List LogEvent) : Prop where
  /-- Nothing. -/
  | still (hv : t.validators = s.validators) (hp : t.selections = s.selections)
    (hlogs : logs = [])
  /-- A validator on its own is added. -/
  | opened (validator : Validator) (hc : c.silences? = none) (howner : validator.owner = none)
    (hv : t.validators = s.validators ++ [validator]) (hp : t.selections = s.selections)
    (hlogs : logs = [])
  /-- A selection of a validator is added, not silenced. -/
  | selected (selection : Selection) (hc : c.silences? = none)
    (hparent : selection.parent < s.validators.length) (hshort : selection.short = false)
    (hv : t.validators = s.validators) (hp : t.selections = s.selections ++ [selection])
    (hlogs : logs = [])
  /-- A validator nested in a selection is added, which takes over its state, and a selection of
  that validator. -/
  | nested (p : Nat) (validator : Validator) (selection : Selection) (hc : c.silences? = none)
    (hlt : p < s.selections.length) (howner : validator.owner = some p)
    (hshort : validator.short = s.isSilent p) (hparent : selection.parent = s.validators.length)
    (hfresh : selection.short = false) (hv : t.validators = s.validators ++ [validator])
    (hp : t.selections = s.selections ++ [selection]) (hlogs : logs = [])
  /-- The validator that the call is made on is short-circuited. That is logged if it is news. -/
  | tripped (v : Nat) (validator : Validator) (reason : String) (failures : Nat)
    (hc : c.validator? = some v) (hval : s.validators[v]? = some validator)
    (hv : t.validators = s.validators.set v { validator with short := true })
    (hp : t.selections = s.selections)
    (hlogs : logs = if validator.short then [] else [.shortCircuited reason failures])
  /-- The selection that the call is to silence is silenced. -/
  | silenced (p : Nat) (selection : Selection) (hc : c.silences? = some p)
    (hsel : s.selections[p]? = some selection) (hv : t.validators = s.validators)
    (hp : t.selections = s.selections.set p { selection with short := true })
    (hlogs : logs = [])

section Operations

variable {s : Session} {c : Call ν}

/-- The results may have changed all the same. -/
theorem Change.of_results (results : Forest) : Change s c { s with results := results } [] :=
  .still rfl rfl rfl

theorem change_openFresh (hc : c.silences? = none) (target : Value) (short : Bool) :
    Change s c (s.openFresh target short).1 [] :=
  .opened ⟨target, s.results.length, short, none⟩ hc rfl rfl rfl rfl

theorem change_openOn (hc : c.silences? = none) (target : Value) (r : Nat) (short : Bool) :
    let t : Turn ν Nat := s.openOn target r short
    Change s c t.session t.logs := by
  rw [openOn]
  rcases s.results.view r with _ | result
  · exact .of_results s.results
  · exact .opened ⟨target, r, short, none⟩ hc rfl rfl rfl rfl

theorem change_openOver (hc : c.silences? = none) (target : Value) (parent : Option Nat) :
    let t : Turn ν Nat := s.openOver target parent
    Change s c t.session t.logs := by
  rcases parent with _ | parent
  · exact .of_results s.results
  · exact .opened ⟨target, s.results.length, false, none⟩ hc rfl rfl rfl rfl

theorem change_select (hc : c.silences? = none) (v : Nat) (identifier : Option Identifier)
    (source : ValueSource) :
    let t : Turn ν Nat := s.select v identifier source
    Change s c t.session t.logs := by
  rw [select]
  rcases hval : s.validators[v]? with _ | validator
  · exact .of_results s.results
  · rcases hvalue : valueFrom validator.target source with fault | value
    · simp only [hvalue]
      exact .of_results s.results
    · simp only [hvalue]
      exact .selected ⟨v, identifier, value, false⟩ hc (List.getElem?_eq_some_iff.mp hval).1 rfl rfl
        rfl rfl

theorem change_selectWithin (hc : c.silences? = none) (p : Nat) (identifier : Option Identifier)
    (extract : Value → Except Fault Value) :
    let t : Turn ν Nat := s.selectWithin p identifier extract
    Change s c t.session t.logs := by
  rw [selectWithin]
  rcases hsel : s.selections[p]? with _ | selection
  · exact .of_results s.results
  rcases hval : s.validators[selection.parent]? with _ | validator
  · simp only [hval]
    exact .of_results s.results
  simp only [hval, addValidator, select, List.getElem?_concat_length]
  rcases valueFrom selection.value (.read extract) with fault | value
  · exact .of_results s.results
  · exact .nested p ⟨selection.value, validator.result, s.isSilent p, some p⟩
      ⟨s.validators.length, identifier, value, false⟩ hc (List.getElem?_eq_some_iff.mp hsel).1 rfl
      rfl rfl rfl rfl rfl rfl

theorem change_runInto (r : Nat) (rule : Rule ν) (value : Value) (id : Option Identifier) :
    Change s c (s.runInto r rule value id).session (s.runInto r rule value id).logs := by
  rw [runInto]
  rcases s.results.view r with _ | result
  · exact .of_results s.results
  · exact .of_results _

theorem change_apply (p : Nat) (guard : Guard) (rule : Rule ν) :
    Change s c (s.apply p guard rule).session (s.apply p guard rule).logs := by
  rw [apply]
  rcases s.selections[p]? with _ | selection
  · exact .of_results s.results
  by_cases hsilent : s.isSilent p = true
  · simp only [if_pos hsilent]
    exact .of_results s.results
  · simp only [if_neg hsilent]
    rcases s.validators[selection.parent]? with _ | validator
    · exact .of_results s.results
    · exact change_runInto ..

theorem change_watch (p : Nat) (watcher : Value → Except Fault (List ν)) :
    Change s c (s.watch p watcher).session (s.watch p watcher).logs := by
  rw [watch]
  rcases s.selections[p]? with _ | selection
  · exact .of_results s.results
  by_cases hskip : (s.isSilent p || selection.value.isNull) = true
  · simp only [if_pos hskip]
    exact .of_results s.results
  · simp only [if_neg hskip]
    rcases watcher selection.value with fault | notes
    · exact .of_results s.results
    · exact .of_results s.results

/-- Tripping is the only way for a validator to be short-circuited, and the only one to be
logged. -/
theorem change_trip {v : Nat} (hc : c.validator? = some v) (results : Forest) (reason : String) :
    let t := { s with results := results }.trip v reason
    Change s c t.1 t.2 := by
  rw [trip]
  rcases hval : s.validators[v]? with _ | validator
  · exact .of_results results
  · exact .tripped v validator reason _ hc hval rfl rfl rfl

theorem change_circuitBreaker {v : Nat} (hc : c.validator? = some v) (value : Value)
    (id : Option Identifier) (rule : Rule ν) :
    Change s c (s.circuitBreaker v value id rule).session
      (s.circuitBreaker v value id rule).logs := by
  rw [circuitBreaker]
  rcases s.validators[v]? with _ | validator
  · exact .of_results s.results
  rcases hfault : (rule.run value id .empty).fault with _ | fault
  · by_cases herrors : (rule.run value id .empty).result.hasErrors = true
    · simp only [hfault, if_pos herrors]
      exact change_trip hc _ _
    · simp only [hfault, if_neg herrors]
      exact .of_results s.results
  · simp only [hfault]
    exact .of_results s.results

theorem change_shortCircuitIf {v : Nat} (hc : c.validator? = some v)
    (condition : ResultCondition) :
    let t : Turn ν Unit := s.shortCircuitIf v condition
    Change s c t.session t.logs := by
  rw [shortCircuitIf]
  rcases s.resultOf v with _ | result
  · exact .of_results s.results
  rcases hcond : condition result with fault | _ | _
  · simp only [hcond]
    exact .of_results s.results
  · simp only [hcond]
    exact .of_results s.results
  · simp only [hcond]
    exact change_trip hc s.results _

theorem change_silenceIf {p : Nat} (hc : c.silences? = some p) (condition : ResultCondition) :
    let t : Turn ν Unit := s.silenceIf p condition
    Change s c t.session t.logs := by
  rw [silenceIf]
  rcases hsel : s.selections[p]? with _ | selection
  · exact .of_results s.results
  rcases hresult : s.resultOf selection.parent with _ | result
  · simp only [hresult]
    exact .of_results s.results
  rcases hcond : condition result with fault | _ | _
  · simp only [hresult, hcond]
    exact .of_results s.results
  · simp only [hresult, hcond]
    exact .of_results s.results
  · simp only [hresult, hcond]
    exact .silenced p selection hc hsel rfl rfl rfl

theorem change_silenceIfErrors {p : Nat} (hc : c.silences? = some p) :
    let t : Turn ν Unit := s.silenceIfErrors p
    Change s c t.session t.logs := by
  rw [silenceIfErrors]
  rcases s.selections[p]? with _ | selection
  · exact .of_results s.results
  · exact change_silenceIf hc _

theorem change_merge (v other : Nat) :
    let t : Turn ν Unit := s.merge v other
    Change s c t.session t.logs := by
  rw [merge]
  rcases s.validators[v]? with _ | validator
  · exact .of_results s.results
  · rcases s.resultOf other with _ | result
    · exact .of_results s.results
    · exact .of_results _

end Operations

/-- **All that a call can do** to validators and selections. -/
theorem act_change (s : Session) (c : Call ν) : Change s c (s.act c).session (s.act c).logs := by
  cases c with
  | result action => exact .of_results _
  | openFresh target short => exact change_openFresh rfl target short
  | openOn target r short => exact change_openOn rfl target r short
  | openOver target parent => exact change_openOver rfl target parent
  | select v identifier source => exact change_select rfl v identifier source
  | selectWithin p identifier extract => exact change_selectWithin rfl p identifier extract
  | apply p guard rule => exact change_apply p guard rule
  | watch p watcher => exact change_watch p watcher
  | circuitBreaker v value id rule => exact change_circuitBreaker rfl value id rule
  | shortCircuitIf v condition => exact change_shortCircuitIf rfl condition
  | shortCircuitIfErrors v => exact change_shortCircuitIf rfl _
  | silenceIf p condition => exact change_silenceIf rfl condition
  | silenceIfErrors p => exact change_silenceIfErrors rfl
  | merge v other => exact change_merge v other

end Verdict.Session
