import Verdict.Proofs.Session.Results

/-!
# Validating in a scope

A validation can be tried out in a scope over a result and merged into the result afterwards, or it
can be made on the result at once. `merge_scope_eq_in_place` says that this is the same: call by
call the two give the same answers, notes and records, at the same points the same members are
short-circuited, and in the end the result is the same. Until it is merged, the validation in the
scope leaves the result alone.

`InStep` relates the two sessions as they go on. Both have the same validators and selections, only
that the new validators report to different results; and what was added to the scope is what was
added to the result. Each kind of call keeps that (`InStep.act`), because a rule adds what it
reports on the failures that it sees, and those are the same on both sides.
-/

namespace Verdict

/-- The validator, reporting to another result. -/
def Validator.reporting (i : Nat) (x : Validator) : Validator := { x with result := i }

/-- Added failures in place: the changed result is seen as it is, and those before it as they
were. -/
theorem Forest.view_setOwn_addAll {f : Forest} {i : Nat} {r : Result} (hr : f.view i = some r)
    (xs : List Failure) : (f.setOwn i (r.addAll xs).own).view i = some (r.addAll xs) := by
  rw [view_setOwn_self hr, Result.addAll_eq_withOwn, Result.own_withOwn]

theorem Forest.view_addAll_of_lt (f : Forest) {i j : Nat} (hj : j < i) (xs : List Failure) :
    (f.addAll i xs).view j = f.view j := by
  induction xs generalizing f with
  | nil => rfl
  | cons x rest ih =>
    refine (ih (f.add i x)).trans ?_
    rw [add]
    rcases f.view i with _ | r
    · rfl
    · exact view_setOwn_of_lt _ f hj

namespace Session

variable {ν : Type}

/-- The condition asks the result questions about its failures, and nothing else. -/
def Asks (condition : ResultCondition) : Prop :=
  ∃ ask : Answers → Except Fault Bool, ∀ r, condition r = ask r.answers

/-- A call that makes up a validation, on one of the validators from number `v` on or one of the
selections from number `p` on: a property is selected, a rule is applied, a value is shown, or
something is short-circuited. -/
inductive Validates (v p : Nat) : Call ν → Prop where
  | select {i : Nat} (hi : v ≤ i) (identifier : Option Identifier) (source : ValueSource) :
    Validates v p (.select i identifier source)
  | selectWithin {i : Nat} (hi : p ≤ i) (identifier : Option Identifier)
    (extract : Value → Except Fault Value) : Validates v p (.selectWithin i identifier extract)
  | apply {i : Nat} (hi : p ≤ i) (guard : Guard) (rule : Rule ν) :
    Validates v p (.apply i guard rule)
  | watch {i : Nat} (hi : p ≤ i) (watcher : Value → Except Fault (List ν)) :
    Validates v p (.watch i watcher)
  | circuitBreaker {i : Nat} (hi : v ≤ i) (value : Value) (identifier : Option Identifier)
    (rule : Rule ν) : Validates v p (.circuitBreaker i value identifier rule)
  | shortCircuitIf {i : Nat} (hi : v ≤ i) {condition : ResultCondition} (h : Asks condition) :
    Validates v p (.shortCircuitIf i condition)
  | shortCircuitIfErrors {i : Nat} (hi : v ≤ i) : Validates v p (.shortCircuitIfErrors i)
  | silenceIf {i : Nat} (hi : p ≤ i) {condition : ResultCondition} (h : Asks condition) :
    Validates v p (.silenceIf i condition)
  | silenceIfErrors {i : Nat} (hi : p ≤ i) : Validates v p (.silenceIfErrors i)

/-! ## The relation -/

/-- `s` is in the course of a validation in a scope over a result of `base`, and `t` in the course
of the same validation in place. The scope is the first result that `base` does not have. -/
structure InStep (base : Session) (r : Nat) (parent : Result) (s t : Session) : Prop where
  validators : ∃ fresh : List Validator,
    s.validators = base.validators ++ fresh.map (.reporting base.results.length) ∧
      t.validators = base.validators ++ fresh.map (.reporting r)
  selections : t.selections = s.selections
  /-- New selections are of new validators. -/
  linked : ∀ (p : Nat) (selection : Selection), base.selections.length ≤ p →
    s.selections[p]? = some selection → base.validators.length ≤ selection.parent
  /-- The same was added on both sides. -/
  results : ∃ added : List Failure,
    s.results.view base.results.length = some ((Result.layered parent .empty).addAll added) ∧
      t.results.view r = some (parent.addAll added)
  /-- On the side of the scope, the results of `base` are as they were. -/
  kept : ∀ j < base.results.length, s.results.view j = base.results.view j

/-- Two turns that give the same and lead to sessions in step. -/
structure SameTurn (base : Session) (r : Nat) (parent : Result) {α : Type} (x y : Turn ν α) :
    Prop where
  session : InStep base r parent x.session y.session
  notes : x.notes = y.notes
  logs : x.logs = y.logs
  answer : x.answer = y.answer

section Steps

variable {base s t : Session} {r : Nat} {parent : Result}

theorem SameTurn.discard {α : Type} {x y : Turn ν α} (h : SameTurn base r parent x y) :
    SameTurn base r parent x.discard y.discard :=
  ⟨h.session, h.notes, h.logs, congrArg (Except.map fun _ => ()) h.answer⟩

theorem InStep.done {α : Type} (h : InStep base r parent s t) (answer : α) :
    SameTurn base r parent (.done s answer : Turn ν α) (.done t answer) :=
  ⟨h, rfl, rfl, rfl⟩

theorem InStep.stopped {α : Type} (h : InStep base r parent s t) (fault : Fault) :
    SameTurn base r parent (.stopped s fault : Turn ν α) (.stopped t fault) :=
  ⟨h, rfl, rfl, rfl⟩

/-! ## Looking at both sessions -/

/-- A new validator is on both sides or on neither, and is the same but for its result. -/
theorem InStep.validator (h : InStep base r parent s t) {v : Nat}
    (hv : base.validators.length ≤ v) :
    (s.validators[v]? = none ∧ t.validators[v]? = none) ∨
      ∃ x : Validator, s.validators[v]? = some (x.reporting base.results.length) ∧
        t.validators[v]? = some (x.reporting r) := by
  obtain ⟨fresh, hs, ht⟩ := h.validators
  rw [hs, ht, List.getElem?_append_right hv, List.getElem?_append_right hv, List.getElem?_map,
    List.getElem?_map]
  rcases fresh[v - base.validators.length]? with _ | x
  · exact .inl ⟨rfl, rfl⟩
  · exact .inr ⟨x, rfl, rfl⟩

theorem InStep.length_validators (h : InStep base r parent s t) :
    t.validators.length = s.validators.length ∧ base.validators.length ≤ s.validators.length := by
  obtain ⟨fresh, hs, ht⟩ := h.validators
  rw [hs, ht]
  simp

/-- Which result a validator reports to has no part in whether it is short-circuited. -/
theorem InStep.isShort (h : InStep base r parent s t) (v : Nat) : t.isShort v = s.isShort v := by
  by_cases hv : base.validators.length ≤ v
  · rcases h.validator hv with ⟨hs, ht⟩ | ⟨x, hs, ht⟩
    · rw [Session.isShort, Session.isShort, hs, ht]
    · rw [isShort_of_getElem? hs, isShort_of_getElem? ht]
      rfl
  · obtain ⟨fresh, hs, ht⟩ := h.validators
    have hlt := Nat.lt_of_not_le hv
    rw [Session.isShort, Session.isShort, hs, ht, List.getElem?_append_left hlt,
      List.getElem?_append_left hlt]

theorem InStep.isSilent (h : InStep base r parent s t) (p : Nat) : t.isSilent p = s.isSilent p := by
  rw [Session.isSilent, Session.isSilent, h.selections]
  simp only [h.isShort]

theorem InStep.isShortCircuited (h : InStep base r parent s t) (m : Member) :
    s.isShortCircuited m = t.isShortCircuited m := by
  cases m with
  | validator v => exact (h.isShort v).symm
  | selection p => exact (h.isSilent p).symm

/-- The scope and the result answer all questions in the same way. -/
theorem InStep.answers (hp : parent.Consistent) (added : List Failure) :
    ((Result.layered parent .empty).addAll added).answers = (parent.addAll added).answers := by
  have hscope : (Result.layered parent .empty).Consistent := ⟨hp, Ledger.consistent_empty⟩
  rw [(hscope.addAll added).answers_eq, (hp.addAll added).answers_eq, Result.failures_addAll,
    Result.failures_addAll]
  exact congrArg (fun fs => Answers.ofFailures (fs ++ added)) (List.append_nil _)

/-- What the new validators see: the scope on one side, the result on the other. -/
theorem InStep.resultOf (h : InStep base r parent s t) {v : Nat}
    (hv : base.validators.length ≤ v) :
    (s.resultOf v = none ∧ t.resultOf v = none) ∨
      ∃ added, s.resultOf v = some ((Result.layered parent .empty).addAll added) ∧
        t.resultOf v = some (parent.addAll added) := by
  obtain ⟨added, hs, ht⟩ := h.results
  rcases h.validator hv with ⟨hvs, hvt⟩ | ⟨x, hvs, hvt⟩
  · refine .inl ⟨?_, ?_⟩
    · rw [Session.resultOf, hvs]
      rfl
    · rw [Session.resultOf, hvt]
      rfl
  · refine .inr ⟨added, ?_, ?_⟩
    · rw [Session.resultOf, hvs]
      exact hs
    · rw [Session.resultOf, hvt]
      exact ht

/-! ## Changing both sessions -/

/-- More is added on both sides. -/
theorem InStep.add (h : InStep base r parent s t) {added more : List Failure} {fs ft : Forest}
    (hs : fs.view base.results.length =
      some (((Result.layered parent .empty).addAll added).addAll more))
    (ht : ft.view r = some ((parent.addAll added).addAll more))
    (hkept : ∀ j < base.results.length, fs.view j = s.results.view j) :
    InStep base r parent { s with results := fs } { t with results := ft } where
  validators := h.validators
  selections := h.selections
  linked := h.linked
  results := ⟨added ++ more, by rw [hs, Result.addAll_append], by rw [ht, Result.addAll_append]⟩
  kept j hj := (hkept j hj).trans (h.kept j hj)

theorem InStep.addSelection (h : InStep base r parent s t) {selection : Selection}
    (hparent : base.validators.length ≤ selection.parent) :
    InStep base r parent (s.addSelection selection).1 (t.addSelection selection).1 where
  validators := h.validators
  selections := congrArg (· ++ [selection]) h.selections
  linked p other hp hother := by
    rcases getElem?_concat_cases hother with hold | ⟨-, rfl⟩
    · exact h.linked p other hp hold
    · exact hparent
  results := h.results
  kept := h.kept

theorem InStep.addValidator (h : InStep base r parent s t) (x : Validator) :
    InStep base r parent (s.addValidator (x.reporting base.results.length)).1
      (t.addValidator (x.reporting r)).1 where
  validators := by
    obtain ⟨fresh, hs, ht⟩ := h.validators
    refine ⟨fresh ++ [x], ?_, ?_⟩
    · rw [Session.addValidator, hs, List.map_append, List.append_assoc]
      rfl
    · rw [Session.addValidator, ht, List.map_append, List.append_assoc]
      rfl
  selections := h.selections
  linked := h.linked
  results := h.results
  kept := h.kept

theorem InStep.silence (h : InStep base r parent s t) {p : Nat} {selection : Selection}
    (hsel : s.selections[p]? = some selection) :
    InStep base r parent
      { s with selections := s.selections.set p { selection with short := true } }
      { t with selections := s.selections.set p { selection with short := true } } where
  validators := h.validators
  selections := rfl
  linked q other hq hother := by
    rcases getElem?_set_cases hother with hold | ⟨rfl, rfl⟩
    · exact h.linked q other hq hold
    · exact h.linked q selection hq hsel
  results := h.results
  kept := h.kept

/-- A validator of both sides is short-circuited, and logged with the same number of failures. -/
theorem InStep.trip (h : InStep base r parent s t) {v : Nat} (hv : base.validators.length ≤ v)
    (reason : String) :
    InStep base r parent (s.trip v reason).1 (t.trip v reason).1 ∧
      (s.trip v reason).2 = (t.trip v reason).2 := by
  rcases h.validator hv with ⟨hs, ht⟩ | ⟨x, hs, ht⟩
  · rw [Session.trip, hs, Session.trip, ht]
    exact ⟨h, rfl⟩
  obtain ⟨added, hscope, hplace⟩ := h.results
  have hsize : ((Result.layered parent .empty).addAll added).size = (parent.addAll added).size := by
    rw [Result.size_eq_length, Result.size_eq_length, Result.failures_addAll,
      Result.failures_addAll]
    exact congrArg (fun fs : List Failure => (fs ++ added).length) (List.append_nil _)
  rw [Session.trip, hs, Session.trip, ht]
  simp only [Validator.reporting, hscope, hplace, Option.map_some, hsize]
  refine ⟨⟨?_, h.selections, h.linked, h.results, h.kept⟩, trivial⟩
  obtain ⟨fresh, hvs, hvt⟩ := h.validators
  refine ⟨fresh.set (v - base.validators.length) { x with short := true }, ?_, ?_⟩
  · rw [hvs, List.set_append_right v _ hv, List.map_set]
    rfl
  · rw [hvt, List.set_append_right v _ hv, List.map_set]
    rfl

/-! ## One call -/

theorem InStep.select (h : InStep base r parent s t) {v : Nat} (hv : base.validators.length ≤ v)
    (identifier : Option Identifier) (source : ValueSource) :
    SameTurn base r parent (s.select v identifier source : Turn ν Nat)
      (t.select v identifier source) := by
  rcases h.validator hv with ⟨hs, ht⟩ | ⟨x, hs, ht⟩
  · rw [Session.select, hs, Session.select, ht]
    exact h.stopped _
  rw [Session.select, hs, Session.select, ht]
  rcases hvalue : valueFrom x.target source with fault | value
  · simp only [Validator.reporting, hvalue]
    exact h.stopped fault
  · simp only [Validator.reporting, hvalue]
    exact ⟨h.addSelection hv, rfl, rfl, congrArg Except.ok (congrArg List.length h.selections.symm)⟩

/-- A turn that is taken only if it ends without a fault. -/
theorem SameTurn.unless_fault (h : InStep base r parent s t) {x y : Turn ν Nat}
    (hxy : SameTurn base r parent x y) :
    SameTurn base r parent
      (match x.answer with
        | .error fault => .stopped s fault
        | .ok _ => x)
      (match y.answer with
        | .error fault => .stopped t fault
        | .ok _ => y) := by
  rcases hx : x.answer with fault | q
  · rw [← hxy.answer, hx]
    exact h.stopped fault
  · rw [← hxy.answer, hx]
    exact hxy

theorem InStep.selectWithin (h : InStep base r parent s t) {p : Nat}
    (hp : base.selections.length ≤ p) (identifier : Option Identifier)
    (extract : Value → Except Fault Value) :
    SameTurn base r parent (s.selectWithin p identifier extract : Turn ν Nat)
      (t.selectWithin p identifier extract) := by
  rw [Session.selectWithin, Session.selectWithin, h.selections]
  rcases hsel : s.selections[p]? with _ | selection
  · exact h.stopped _
  rcases h.validator (h.linked p selection hp hsel) with ⟨hs, ht⟩ | ⟨x, hs, ht⟩
  · simp only [hs, ht]
    exact h.stopped _
  -- the nested validator reports where the validator of the selection does
  have hnested := (h.addValidator ⟨selection.value, 0, s.isSilent p, some p⟩).select (ν := ν)
    h.length_validators.2 identifier (.read extract)
  simp only [hs, ht, h.isSilent]
  refine SameTurn.unless_fault h ?_
  rw [Session.addValidator, Session.addValidator, h.length_validators.1]
  exact hnested

/-- A rule adds the same on both sides, since it sees the same failures. -/
theorem InStep.runInto (h : InStep base r parent s t) (hp : parent.Consistent) (rule : Rule ν)
    (value : Value) (id : Option Identifier) :
    SameTurn base r parent (s.runInto base.results.length rule value id)
      (t.runInto r rule value id) := by
  obtain ⟨added, hs, ht⟩ := h.results
  have hscope : ((Result.layered parent .empty).addAll added).Consistent :=
    Result.Consistent.addAll (r := .layered parent .empty) ⟨hp, Ledger.consistent_empty⟩ added
  have hsame : ((Result.layered parent .empty).addAll added).failures =
      (parent.addAll added).failures := congrArg Answers.failures (InStep.answers hp added)
  rw [Session.runInto, hs, Session.runInto, ht]
  simp only [rule.run_eq_report value id hscope, rule.run_eq_report value id (hp.addAll added),
    hsame, Report.onto]
  generalize rule.report value id (parent.addAll added).failures = report
  exact ⟨h.add (Forest.view_setOwn_addAll hs _) (Forest.view_setOwn_addAll ht _)
    fun j hj => Forest.view_setOwn_of_lt _ _ hj, rfl, rfl, rfl⟩

theorem InStep.apply (h : InStep base r parent s t) (hparent : parent.Consistent) {p : Nat}
    (hp : base.selections.length ≤ p) (guard : Guard) (rule : Rule ν) :
    SameTurn base r parent (s.apply p guard rule) (t.apply p guard rule) := by
  rw [Session.apply, Session.apply, h.selections, h.isSilent]
  rcases hsel : s.selections[p]? with _ | selection
  · exact h.stopped _
  by_cases hsilent : s.isSilent p = true
  · simp only [if_pos hsilent]
    exact h.done ()
  simp only [if_neg hsilent]
  rcases h.validator (h.linked p selection hp hsel) with ⟨hs, ht⟩ | ⟨x, hs, ht⟩
  · rw [hs, ht]
    exact h.stopped _
  · rw [hs, ht]
    exact h.runInto hparent ..

theorem InStep.watch (h : InStep base r parent s t) (p : Nat)
    (watcher : Value → Except Fault (List ν)) :
    SameTurn base r parent (s.watch p watcher) (t.watch p watcher) := by
  rw [Session.watch, Session.watch, h.selections, h.isSilent]
  rcases s.selections[p]? with _ | selection
  · exact h.stopped _
  by_cases hskip : (s.isSilent p || selection.value.isNull) = true
  · simp only [if_pos hskip]
    exact h.done ()
  simp only [if_neg hskip]
  rcases watcher selection.value with fault | notes
  · exact h.stopped fault
  · exact ⟨h, rfl, rfl, rfl⟩

/-- The rule is run apart from both sides, and what it finds is added to both. -/
theorem InStep.circuitBreaker (h : InStep base r parent s t) {v : Nat}
    (hv : base.validators.length ≤ v) (value : Value) (id : Option Identifier) (rule : Rule ν) :
    SameTurn base r parent (s.circuitBreaker v value id rule)
      (t.circuitBreaker v value id rule) := by
  rcases h.validator hv with ⟨hs, ht⟩ | ⟨x, hs, ht⟩
  · rw [Session.circuitBreaker, hs, Session.circuitBreaker, ht]
    exact h.stopped _
  rw [Session.circuitBreaker, hs, Session.circuitBreaker, ht]
  generalize rule.run value id .empty = o
  rcases hfault : o.fault with _ | fault
  · by_cases herrors : o.result.hasErrors = true
    · obtain ⟨added, hscope, hplace⟩ := h.results
      have hadd := h.add (Forest.view_addAll hscope o.result.failures)
        (Forest.view_addAll hplace o.result.failures)
        fun j hj => Forest.view_addAll_of_lt s.results hj _
      have htrip := hadd.trip hv ("circuit breaker on '" ++ identifierText id ++ "'")
      simp only [hfault, if_pos herrors]
      exact ⟨htrip.1, rfl, htrip.2, rfl⟩
    · simp only [hfault, if_neg herrors]
      exact ⟨h, rfl, rfl, rfl⟩
  · simp only [hfault]
    exact ⟨h, rfl, rfl, rfl⟩

theorem InStep.shortCircuitIf (h : InStep base r parent s t) (hp : parent.Consistent) {v : Nat}
    (hv : base.validators.length ≤ v) {condition : ResultCondition} (hc : Asks condition) :
    SameTurn base r parent (s.shortCircuitIf v condition : Turn ν Unit)
      (t.shortCircuitIf v condition) := by
  obtain ⟨ask, hask⟩ := hc
  rw [Session.shortCircuitIf, Session.shortCircuitIf]
  rcases h.resultOf hv with ⟨hs, ht⟩ | ⟨added, hs, ht⟩
  · rw [hs, ht]
    exact h.stopped _
  · simp only [hs, ht, hask, InStep.answers hp]
    rcases ask (parent.addAll added).answers with fault | _ | _
    · exact h.stopped fault
    · exact h.done ()
    · have htrip := h.trip hv "condition met"
      exact ⟨htrip.1, rfl, htrip.2, rfl⟩

theorem InStep.silenceIf (h : InStep base r parent s t) (hparent : parent.Consistent) {p : Nat}
    (hp : base.selections.length ≤ p) {condition : ResultCondition} (hc : Asks condition) :
    SameTurn base r parent (s.silenceIf p condition : Turn ν Unit) (t.silenceIf p condition) := by
  obtain ⟨ask, hask⟩ := hc
  rw [Session.silenceIf, Session.silenceIf, h.selections]
  rcases hsel : s.selections[p]? with _ | selection
  · exact h.stopped _
  rcases h.resultOf (h.linked p selection hp hsel) with ⟨hs, ht⟩ | ⟨added, hs, ht⟩
  · simp only [hs, ht]
    exact h.stopped _
  · simp only [hs, ht, hask, InStep.answers hparent]
    rcases ask (parent.addAll added).answers with fault | _ | _
    · exact h.stopped fault
    · exact h.done ()
    · exact ⟨h.silence hsel, rfl, rfl, rfl⟩

/-- Every call of a validation keeps the two sessions in step. -/
theorem InStep.act (h : InStep base r parent s t) (hp : parent.Consistent) {c : Call ν}
    (hc : Validates base.validators.length base.selections.length c) :
    SameTurn base r parent (s.act c) (t.act c) := by
  cases hc with
  | select hi identifier source => exact (h.select hi identifier source).discard
  | selectWithin hi identifier extract => exact (h.selectWithin hi identifier extract).discard
  | apply hi guard rule => exact h.apply hp hi guard rule
  | watch hi watcher => exact h.watch _ watcher
  | circuitBreaker hi value identifier rule => exact h.circuitBreaker hi value identifier rule
  | shortCircuitIf hi hc => exact h.shortCircuitIf hp hi hc
  | shortCircuitIfErrors hi => exact h.shortCircuitIf hp hi ⟨fun q => .ok q.hasErrors, fun _ => rfl⟩
  | silenceIf hi hc => exact h.silenceIf hp hi hc
  | @silenceIfErrors p hi =>
    rw [Session.act, Session.act, silenceIfErrors, silenceIfErrors, h.selections]
    rcases s.selections[p]? with _ | selection
    · exact h.stopped _
    · exact h.silenceIf hp hi ⟨fun q => .ok (q.hasErrorFor selection.identifier), fun _ => rfl⟩

/-! ## All calls -/

/-- The two sessions are in step at the start. -/
theorem inStep_open (hr : base.results.view r = some parent) (target : Value) :
    InStep base r parent (base.openOver target (some r) : Turn ν Nat).session
      (base.openOn target r false : Turn ν Nat).session := by
  rw [openOn, hr]
  refine ⟨⟨[⟨target, 0, false, none⟩], rfl, rfl⟩, rfl, fun p selection hp hsel => ?_, ⟨[], ?_, hr⟩,
    fun j hj => Forest.view_cons_of_ne _ (Nat.ne_of_lt hj)⟩
  · exact absurd (List.getElem?_eq_some_iff.mp hsel).1 (Nat.not_lt.mpr hp)
  · refine (Forest.view_cons_length ⟨some r, .empty⟩ base.results).trans ?_
    simp only [hr, Option.map_some]
    rfl

end Steps

/-- What each of some calls gives that are made one after the other. -/
def turns (s : Session) : List (Call ν) → List (Turn ν Unit)
  | [] => []
  | c :: rest => s.act c :: (s.act c).session.turns rest

/-- What a call in a scope has in common with the same call in place, and that it leaves all
results alone that were there before the scope. -/
structure Mirrors (base : Session) (x y : Turn ν Unit) : Prop where
  answer : x.answer = y.answer
  notes : x.notes = y.notes
  logs : x.logs = y.logs
  short : ∀ m, x.session.isShortCircuited m = y.session.isShortCircuited m
  kept : ∀ j < base.results.length, x.session.results.view j = base.results.view j

section Runs

variable {base s t : Session} {r : Nat} {parent : Result}

theorem SameTurn.mirrors {x y : Turn ν Unit} (h : SameTurn base r parent x y) : Mirrors base x y :=
  ⟨h.answer, h.notes, h.logs, h.session.isShortCircuited, h.session.kept⟩

theorem InStep.follow (h : InStep base r parent s t) (hp : parent.Consistent)
    {program : List (Call ν)}
    (hprogram : ∀ c ∈ program, Validates base.validators.length base.selections.length c) :
    List.Forall₂ (Mirrors base) (s.turns program) (t.turns program) ∧
      InStep base r parent (s.follow program) (t.follow program) := by
  induction program generalizing s t with
  | nil => exact ⟨.nil, h⟩
  | cons c rest ih =>
    obtain ⟨hc, hrest⟩ := List.forall_mem_cons.mp hprogram
    have hstep := h.act hp hc
    obtain ⟨hturns, hend⟩ := ih hstep.session hrest
    exact ⟨.cons hstep.mirrors hturns, hend⟩

/-- Merging the scope adds to the result what was added in place. -/
theorem InStep.merge (h : InStep base r parent s t) (hr : base.results.view r = some parent)
    {v a : Nat} (hv : base.validators.length ≤ v) (hlt : v < s.validators.length)
    {validator : Validator} (ha : s.validators[a]? = some validator)
    (hresult : validator.result = r) :
    (s.merge a v : Turn ν Unit).answer = .ok () ∧
      ∃ result, (s.merge a v : Turn ν Unit).session.results.view r = some result ∧
        t.results.view r = some result := by
  obtain ⟨added, hs, ht⟩ := h.results
  rcases h.validator hv with ⟨hnone, -⟩ | ⟨x, hsome, -⟩
  · exact absurd hlt (Nat.not_lt.mpr (List.getElem?_eq_none_iff.mp hnone))
  have hscope : s.resultOf v = some ((Result.layered parent .empty).addAll added) := by
    rw [Session.resultOf, hsome]
    exact hs
  have hparent : s.results.view r = some parent := by
    rw [h.kept r (Forest.lt_length_of_view hr), hr]
  have hown : ((Result.layered parent .empty).addAll added).scopedFailures? = some added :=
    Result.scopedFailures?_addAll ..
  rw [Session.merge, ha, hscope]
  simp only [hown, Option.getD_some, hresult]
  exact ⟨rfl, parent.addAll added, Forest.view_addAll hparent added, ht⟩

end Runs

/-- **Merging a scope is validating in place.** At any point of any run, let one validator of an
object report to a scope over a result, and another one of the same object to the result itself.
Let the same validation be made on both, call by call. Then each call gives the same answer or
fault, the same notes and the same records, and leaves the same members short-circuited; and the
validation in the scope leaves the result alone, with all that it is layered over. Merging the
scope, by any validator that reports to the result, makes the result what it is after the validation
in place. -/
theorem merge_scope_eq_in_place (calls : List (Call ν)) {r : Nat} {parent : Result}
    (hr : (after calls).results.view r = some parent) (target : Value) {program : List (Call ν)}
    (hprogram : ∀ c ∈ program,
      Validates (after calls).validators.length (after calls).selections.length c) :
    let base := after calls
    let apart : Turn ν Nat := base.openOver target (some r)
    let inPlace : Turn ν Nat := base.openOn target r false
    let s := apart.session.follow program
    let t := inPlace.session.follow program
    apart.answer = .ok base.validators.length ∧ inPlace.answer = .ok base.validators.length ∧
      List.Forall₂ (Mirrors base) (apart.session.turns program) (inPlace.session.turns program) ∧
      (∀ m, s.isShortCircuited m = t.isShortCircuited m) ∧
      s.results.view r = some parent ∧
      ∀ a validator, s.validators[a]? = some validator → validator.result = r →
        let merged : Turn ν Unit := s.merge a base.validators.length
        merged.answer = .ok () ∧ ∃ result, merged.session.results.view r = some result ∧
          t.results.view r = some result := by
  intro base apart inPlace s t
  have hp : parent.Consistent := (consistent_after calls).view hr
  have hopen : InStep base r parent apart.session inPlace.session := inStep_open hr target
  obtain ⟨hturns, hend⟩ := hopen.follow hp hprogram
  have hon : inPlace.answer = .ok base.validators.length := by
    simp only [inPlace, openOn, base, hr]
    rfl
  have hlt : base.validators.length < s.validators.length := by
    have hover : apart.session.validators.length = base.validators.length + 1 := List.length_append
    have hle := (apart.session.extends_follow program).validators.length_le
    exact Nat.lt_of_lt_of_le (hover ▸ Nat.lt_succ_self _) hle
  have hkept : s.results.view r = some parent := by
    rw [hend.kept r (Forest.lt_length_of_view hr), hr]
  exact ⟨rfl, hon, hturns, hend.isShortCircuited, hkept, fun a validator ha hresult =>
    hend.merge hr (Nat.le_refl _) hlt ha hresult⟩

/-! ## A scope that is merged -/

/-- A validator whose result has a failure. -/
def sampleFound : List (Call Unit) :=
  [.openFresh (.text "user") false, .result (.add 0 (.sample .field "earlier"))]

/-- Rules that ask what was found, also before the scope; one that faults; and a circuit breaker,
after which the nested property, selected before, is still heard and a new one is not. -/
def sampleProgram : List (Call Unit) :=
  [.select 1 (some ⟨.path, ""⟩) (.given (.text "home")),
    .apply 0 .whileClean (.chainAlways (.fail (.sample .path "a")) (.fail (.sample .field "b"))),
    .apply 0 (.whileCleanFor (some ⟨.field, ""⟩)) (.fail (.sample .path "skipped")),
    .selectWithin 0 (some ⟨.index, ""⟩) fun value => .ok value,
    .apply 1 (.on fun _ => .error .overflow) (.fail (.sample .index "faulted")),
    .circuitBreaker 1 .null none (.fail (.sample .custom "c")),
    .select 1 (some ⟨.path, ""⟩) (.given .null),
    .apply 2 .always (.fail (.sample .path "muted")),
    .apply 1 .always (.fail (.sample .index "d"))]

/-- The codes of what a result of the session holds. -/
def codesIn (s : Session) (r : Nat) : Option (List String) :=
  (s.results.view r).map fun result => result.failures.map (·.code)

theorem merge_scope_eq_in_place_sampleProgram :
    let base := after sampleFound
    let s := (base.openOver (.text "user") (some 0) : Turn Unit Nat).session.follow sampleProgram
    let t := (base.openOn (.text "user") 0 false : Turn Unit Nat).session.follow sampleProgram
    s.codesIn 0 = some ["earlier"] ∧ t.codesIn 0 = some ["earlier", "a", "b", "c", "d"] ∧
      (s.merge 0 base.validators.length : Turn Unit Unit).session.codesIn 0 = t.codesIn 0 ∧
      s.isShortCircuited (.selection 2) = t.isShortCircuited (.selection 2) := by
  intro base s t
  have hr : base.results.view 0 = some (.plain (.ofEntries [.sample .field "earlier"])) := rfl
  have hprogram : ∀ c ∈ sampleProgram,
      Validates base.validators.length base.selections.length c := by
    have hnew : ∀ p, base.selections.length ≤ p := Nat.zero_le
    have hscope : base.validators.length ≤ 1 := Nat.le_refl 1
    simp only [sampleProgram, List.forall_mem_cons]
    exact ⟨.select hscope _ _, .apply (hnew _) _ _, .apply (hnew _) _ _,
      .selectWithin (hnew _) _ _, .apply (hnew _) _ _, .circuitBreaker hscope _ _ _,
      .select hscope _ _, .apply (hnew _) _ _, .apply (hnew _) _ _, fun _ h => by cases h⟩
  obtain ⟨-, -, -, hshort, hkept, hmerge⟩ :=
    merge_scope_eq_in_place sampleFound hr (.text "user") hprogram
  -- the validator that reports to the result is still there
  obtain ⟨y, hy, hbecomes, -⟩ := (extends_follow
    (base.openOver (.text "user") (some 0) : Turn Unit Nat).session sampleProgram).validators 0
    ⟨.text "user", 0, false, none⟩ rfl
  obtain ⟨-, result, hmerged, hplace⟩ := hmerge 0 y hy (by rw [hbecomes])
  refine ⟨?_, by decide +kernel, ?_, hshort _⟩
  · rw [codesIn, hkept]
    rfl
  · rw [codesIn, codesIn, hmerged, hplace]

end Session

end Verdict
