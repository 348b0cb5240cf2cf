import Verdict.Proofs.Rule.Trace
import Verdict.Proofs.Session.Growth

/-!
# Circuit breakers

A circuit breaker runs a rule apart from everything else, on a result of its own. A fault of the
rule leaves the session alone. Failures are added to the result of the validator one by one, and
the validator is short-circuited.

So a circuit breaker is all or nothing, and what it finds does not depend on what was found before:
`circuitBreaker_of_open` says both of a validator that goes on. Whether the validator is
short-circuited already does not matter, either: unlike what selections are asked to do, a circuit
breaker is heard all the same (`circuitBreaker_of_isShort`). Only there is no transition then, and
so nothing to log.
-/

namespace Verdict

/-- The forest after failures are added to the result with the number, one by one. -/
def Forest.addAll (f : Forest) (i : Nat) (xs : List Failure) : Forest :=
  xs.foldl (fun f x => f.add i x) f

/-- Failures that were added are there, in order. -/
theorem Forest.view_addAll {f : Forest} {i : Nat} {r : Result} (hr : f.view i = some r)
    (xs : List Failure) : (f.addAll i xs).view i = some (r.addAll xs) := by
  induction xs generalizing f r with
  | nil => exact hr
  | cons x rest ih =>
    have hx : (f.add i x).view i = some (r.add x) := by
      rw [Forest.add, hr]
      refine (Forest.view_setOwn_self hr).trans ?_
      rw [Result.add, Result.own_withOwn]
    rw [Result.addAll_cons]
    exact ih hx

namespace Session

variable {ν : Type} {s : Session}

theorem exists_of_resultOf {v : Nat} {r : Result} (h : s.resultOf v = some r) :
    ∃ validator, s.validators[v]? = some validator ∧ s.results.view validator.result = some r := by
  rw [resultOf] at h
  exact Option.bind_eq_some_iff.mp h

/-- A rule that ends in a fault leaves the session alone. -/
theorem circuitBreaker_of_fault {v : Nat} {validator : Validator}
    (hval : s.validators[v]? = some validator) {value : Value} {id : Option Identifier}
    {rule : Rule ν} {fault : Fault} (h : (rule.run value id .empty).fault = some fault) :
    s.circuitBreaker v value id rule =
      ⟨s, (rule.run value id .empty).notes, [], .error fault⟩ := by
  rw [circuitBreaker, hval]
  simp only [h]

/-- What a rule finds is added, and the validator short-circuited. -/
theorem circuitBreaker_of_found {v : Nat} {validator : Validator}
    (hval : s.validators[v]? = some validator) {value : Value} {id : Option Identifier}
    {rule : Rule ν} (h : (rule.run value id .empty).fault = none)
    (hfound : (rule.run value id .empty).result.failures ≠ []) :
    s.circuitBreaker v value id rule =
      ⟨{ s with
          results := s.results.addAll validator.result (rule.run value id .empty).result.failures
          validators := s.validators.set v { validator with short := true } },
        (rule.run value id .empty).notes,
        if validator.short then [] else [.shortCircuited
          ("circuit breaker on '" ++ identifierText id ++ "'")
          ((((s.results.addAll validator.result (rule.run value id .empty).result.failures).view
            validator.result).map (·.size)).getD 0)], .ok ()⟩ := by
  have herrors : (rule.run value id .empty).result.hasErrors = true := by
    rw [Result.hasErrors_eq]
    simpa using hfound
  rw [circuitBreaker, hval]
  simp only [h, if_pos herrors, trip, hval]
  rfl

/-- A rule that finds nothing changes nothing. -/
theorem circuitBreaker_of_clean {v : Nat} {validator : Validator}
    (hval : s.validators[v]? = some validator) {value : Value} {id : Option Identifier}
    {rule : Rule ν} (h : (rule.run value id .empty).fault = none)
    (hclean : (rule.run value id .empty).result.failures = []) :
    s.circuitBreaker v value id rule =
      ⟨s, (rule.run value id .empty).notes, [], .ok ()⟩ := by
  have herrors : ¬(rule.run value id .empty).result.hasErrors = true := by
    rw [Result.hasErrors_eq, hclean]
    exact Bool.false_ne_true
  rw [circuitBreaker, hval]
  simp only [h, if_neg herrors]

/-- **A circuit breaker is heard by a short-circuited validator**: the rule is run, its notes are
taken and its fault is passed on. If it ends without a fault, what it found is added to the result
of the validator. No report changes and nothing is logged. -/
theorem circuitBreaker_of_isShort {v : Nat} {r : Result} (hr : s.resultOf v = some r)
    (hshort : s.isShort v = true) (value : Value) (id : Option Identifier) (rule : Rule ν) :
    let o := rule.run value id .empty
    let t := s.circuitBreaker v value id rule
    t.notes = o.notes ∧ t.logs = [] ∧ t.answer = o.fault.elim (.ok ()) .error ∧
      (∀ m, t.session.isShortCircuited m = s.isShortCircuited m) ∧
      (o.fault = none → t.session.resultOf v = some (r.addAll o.result.failures)) ∧
      (o.fault ≠ none → t.session = s) := by
  intro o t
  obtain ⟨validator, hval, hview⟩ := exists_of_resultOf hr
  have hval_short : validator.short = true := (isShort_of_getElem? hval).symm.trans hshort
  rcases hfault : o.fault with _ | fault
  · by_cases hfound : o.result.failures = []
    · have ht : t = ⟨s, o.notes, [], .ok ()⟩ := circuitBreaker_of_clean hval hfault hfound
      rw [ht, hfound]
      exact ⟨rfl, rfl, rfl, fun _ => rfl, fun _ => hr, fun h => absurd rfl h⟩
    · -- the validator is set to what it is already
      have hset : s.validators.set v { validator with short := true } = s.validators := by
        obtain ⟨hlt, hget⟩ := List.getElem?_eq_some_iff.mp hval
        rw [← hval_short, ← hget]
        exact List.set_getElem_self hlt
      have ht : t = ⟨{ s with results := s.results.addAll validator.result o.result.failures },
          o.notes, [], .ok ()⟩ := by
        have hfull := circuitBreaker_of_found hval hfault hfound
        rwa [hset, if_pos hval_short] at hfull
      rw [ht]
      refine ⟨rfl, rfl, rfl, fun m => ?_, fun _ => ?_, fun h => absurd rfl h⟩
      · cases m with
        | validator v => rfl
        | selection p => rfl
      · rw [resultOf, hval]
        exact Forest.view_addAll hview o.result.failures
  · have ht : t = ⟨s, o.notes, [], .error fault⟩ := circuitBreaker_of_fault hval hfault
    rw [ht]
    exact ⟨rfl, rfl, rfl, fun _ => rfl, fun h => absurd h (Option.some_ne_none fault),
      fun _ => rfl⟩

/-! ## Validators that go on -/

/-- What a circuit breaker notes is noted on the way of the rule over an empty result. -/
theorem notes_circuitBreaker {v : Nat} {validator : Validator}
    (hval : s.validators[v]? = some validator) (value : Value) (id : Option Identifier)
    (rule : Rule ν) :
    (s.circuitBreaker v value id rule).notes = (rule.run value id .empty).notes := by
  rcases hfault : (rule.run value id .empty).fault with _ | fault
  · by_cases hfound : (rule.run value id .empty).result.failures = []
    · rw [circuitBreaker_of_clean hval hfault hfound]
    · rw [circuitBreaker_of_found hval hfault hfound]
  · rw [circuitBreaker_of_fault hval hfault]

/-- Rules that leave the same on an empty result and end there in the same way do the same to a
session when they are run by a circuit breaker. -/
theorem session_circuitBreaker_congr {μ : Type} {value : Value} {id : Option Identifier}
    {rule : Rule ν} {other : Rule μ}
    (hresult : (other.run value id .empty).result = (rule.run value id .empty).result)
    (hfault : (other.run value id .empty).fault = (rule.run value id .empty).fault) (v : Nat) :
    (s.circuitBreaker v value id other).session = (s.circuitBreaker v value id rule).session := by
  rw [circuitBreaker, circuitBreaker]
  rcases s.validators[v]? with _ | validator
  · rfl
  simp only [hresult, hfault]
  rcases (rule.run value id .empty).fault with _ | fault
  · by_cases herrors : (rule.run value id .empty).result.hasErrors = true
    · simp only [if_pos herrors]
    · simp only [if_neg herrors]
  · rfl

/-- When the rule ends without a fault, what it found is added to the result of the validator. -/
theorem resultOf_circuitBreaker {v : Nat} {r : Result} (hr : s.resultOf v = some r) {value : Value}
    {id : Option Identifier} {rule : Rule ν} (h : (rule.run value id .empty).fault = none) :
    (s.circuitBreaker v value id rule).session.resultOf v =
      some (r.addAll (rule.run value id .empty).result.failures) := by
  obtain ⟨validator, hval, hview⟩ := exists_of_resultOf hr
  by_cases hfound : (rule.run value id .empty).result.failures = []
  · rw [circuitBreaker_of_clean hval h hfound, hfound]
    exact hr
  · have hlt : v < s.validators.length := (List.getElem?_eq_some_iff.mp hval).1
    rw [circuitBreaker_of_found hval h hfound, resultOf, List.getElem?_set_self hlt]
    exact Forest.view_addAll hview _

/-- A validator that goes on is short-circuited if the rule ends without a fault and has found
something. -/
theorem isShort_circuitBreaker_iff {v : Nat} {r : Result} (hr : s.resultOf v = some r)
    (hopen : s.isShort v = false) {value : Value} {id : Option Identifier} {rule : Rule ν}
    (h : (rule.run value id .empty).fault = none) :
    (s.circuitBreaker v value id rule).session.isShort v = true ↔
      (rule.run value id .empty).result.failures ≠ [] := by
  obtain ⟨validator, hval, -⟩ := exists_of_resultOf hr
  by_cases hfound : (rule.run value id .empty).result.failures = []
  · rw [circuitBreaker_of_clean hval h hfound, hopen]
    simp [hfound]
  · have hlt : v < s.validators.length := (List.getElem?_eq_some_iff.mp hval).1
    rw [circuitBreaker_of_found hval h hfound, isShort, List.getElem?_set_self hlt]
    simp [hfound]

/-- **A circuit breaker is all or nothing.** Let a rule be run by a circuit breaker on a validator
that goes on. If the rule ends in a fault, the session is as it was, whatever the rule had found by
then, and the fault is passed on. Otherwise what the rule finds on an empty result comes after the
failures that were there, in the scope only if the result is one, and the validator is
short-circuited exactly if that is anything. Failures that were there do not matter to the rule: the
leaves that it comes to, as told by the traced rule, are those that it comes to on an empty
result. -/
theorem circuitBreaker_of_open {v : Nat} {r : Result} (hr : s.resultOf v = some r)
    (hopen : s.isShort v = false) (value : Value) (id : Option Identifier) (rule : Rule ν) :
    let o := rule.run value id .empty
    let t := s.circuitBreaker v value id rule
    let traced := s.circuitBreaker v value id (rule.traced [])
    (∀ fault, o.fault = some fault → t.session = s ∧ t.answer = .error fault) ∧
      (o.fault = none → t.answer = .ok () ∧
        (∃ r', t.session.resultOf v = some r' ∧
          r'.failures = r.failures ++ o.result.failures ∧
          r'.scopedFailures? = r.scopedFailures?.map (· ++ o.result.failures) ∧
          r'.parent? = r.parent?) ∧
        (t.session.isShort v = true ↔ o.result.failures ≠ [])) ∧
      traced.session = t.session ∧
      traced.notes = ((rule.traced []).run value id .empty).notes := by
  intro o t traced
  obtain ⟨validator, hval, -⟩ := exists_of_resultOf hr
  refine ⟨?_, ?_, ?_, notes_circuitBreaker hval value id (rule.traced [])⟩
  · intro fault hfault
    have ht : t = ⟨s, o.notes, [], .error fault⟩ := circuitBreaker_of_fault hval hfault
    rw [ht]
    exact ⟨rfl, rfl⟩
  · intro hfault
    have hanswer : t.answer = .ok () := by
      by_cases hfound : o.result.failures = []
      · have ht := circuitBreaker_of_clean hval hfault hfound
        exact congrArg Turn.answer ht
      · have ht := circuitBreaker_of_found hval hfault hfound
        exact congrArg Turn.answer ht
    exact ⟨hanswer, ⟨_, resultOf_circuitBreaker hr hfault, Result.failures_addAll ..,
      Result.scopedFailures?_addAll .., Result.parent?_addAll ..⟩,
      isShort_circuitBreaker_iff hr hopen hfault⟩
  · obtain ⟨hresult, -, hfault⟩ :=
      rule.traced_run [] value id (r := .empty) Ledger.consistent_empty
    exact session_circuitBreaker_congr hresult hfault v

/-! ## Runs with a circuit breaker -/

/-- A validator of a result with a failure, and one of a scope over that result. -/
def sampleLayered : List (Call Unit) :=
  [.openFresh .null false, .result (.add 0 (.sample .field "a")), .openOver .null (some 0)]

/-- Adds a failure unless the element has one, and one that comes before a fault. -/
def sampleClean : Rule Unit := .chain .noop (.fail (.sample .field "b"))

def sampleBroken : Rule Unit :=
  .chainAlways (.fail (.sample .field "c")) (.create false (fun _ => .error .overflow) fun _ =>
    .error .overflow)

/-- The rule is not stopped by the failure of the parent, and the fault takes the other failure
with it. -/
theorem circuitBreaker_of_open_sampleLayered :
    let s := after sampleLayered
    let id : Option Identifier := some ⟨.field, ""⟩
    let scope := Result.layered (.plain (.ofEntries [.sample .field "a"])) .empty
    let t := s.circuitBreaker 1 .null id sampleClean
    let u := s.circuitBreaker 1 .null id sampleBroken
    s.resultOf 1 = some scope ∧ s.isShort 1 = false ∧
      (sampleClean.run .null id scope).result.failures = scope.failures ∧
      (∃ r', t.session.resultOf 1 = some r' ∧
        r'.failures = [.sample .field "a", .sample .field "b"] ∧
        r'.scopedFailures? = some [.sample .field "b"]) ∧
      t.session.isShort 1 = true ∧
      (sampleBroken.run .null id .empty).result.failures = [.sample .field "c"] ∧
      u.session = s ∧ u.answer = .error .overflow := by
  intro s id scope t u
  have hr : s.resultOf 1 = some scope := rfl
  have hopen : s.isShort 1 = false := rfl
  obtain ⟨-, hfine, -⟩ := circuitBreaker_of_open hr hopen .null id sampleClean
  obtain ⟨hbroken, -⟩ := circuitBreaker_of_open hr hopen .null id sampleBroken
  obtain ⟨-, ⟨r', hresult, hfailures, hscoped, -⟩, hshort⟩ := hfine rfl
  obtain ⟨hsame, hfault⟩ := hbroken .overflow rfl
  exact ⟨hr, hopen, rfl, ⟨r', hresult, hfailures, hscoped⟩, hshort.mpr (List.cons_ne_nil _ _),
    rfl, hsame, hfault⟩

/-- A validator that is short-circuited. -/
def sampleShort : List (Call Unit) :=
  [.openFresh .null false, .shortCircuitIf 0 fun _ => .ok true]

/-- A rule that fails, and is seen to be run. -/
def sampleWatched : Rule Unit :=
  .peek (.fail (.sample .field "name")) fun _ => .ok [()]

theorem circuitBreaker_of_isShort_sampleShort :
    let s := after sampleShort
    let t := s.circuitBreaker 0 .null none sampleWatched
    s.resultOf 0 = some .empty ∧ s.isShort 0 = true ∧ t.notes = [()] ∧
      t.session.resultOf 0 = some (Result.empty.addAll [.sample .field "name"]) := by
  intro s t
  have hr : s.resultOf 0 = some .empty := rfl
  have hshort : s.isShort 0 = true := rfl
  obtain ⟨hnotes, -, -, -, hresult, -⟩ :=
    circuitBreaker_of_isShort hr hshort .null none sampleWatched
  exact ⟨hr, hshort, hnotes, hresult rfl⟩

/-- A short-circuited validator runs the rule of a circuit breaker, and its result changes. -/
theorem circuitBreaker_not_skipped :
    let s := after sampleShort
    let t := s.circuitBreaker 0 .null none sampleWatched
    s.isShort 0 = true ∧ t.notes ≠ [] ∧ (s.resultOf 0).map (·.failures) = some [] ∧
      (t.session.resultOf 0).map (·.failures) = some [.sample .field "name"] := by
  intro s t
  exact ⟨rfl, List.cons_ne_nil _ _, rfl, rfl⟩

end Session

end Verdict
