import Verdict.Message.Log
import Verdict.Result.Forest
import Verdict.Rule

/-!
# Validation sessions

A session walks over objects property by property. A `Validator` stands for an object and the
result that collects its failures; a `Selection` stands for one property of it, with its value.
Rules are applied to selections and report into the result of the validator. Selecting a property
of a selection makes a nested validator over its value, which shares the result.

A validator that is short-circuited silences its selections; a selection can also be silenced
alone. A nested validator takes over the state that its selection has when it is made, and no later
change of it. A circuit breaker is heard even by a silenced validator.

Every operation gives a `Turn`: the session afterwards, what watchers noted, what was logged, and
the answer or the fault. What happened before a fault stays.
-/

namespace Verdict

/-- An object under validation. -/
structure Validator where
  target : Value
  /-- The number of the result that collects the failures. -/
  result : Nat
  short : Bool
  /-- The number of the selection that the validator is nested in. -/
  owner : Option Nat
deriving Inhabited

/-- A property of an object, selected for validation. -/
structure Selection where
  /-- The number of the validator of the object. -/
  parent : Nat
  identifier : Option Identifier
  value : Value
  short : Bool
deriving Inhabited

/-- Validators, selections and results, each known by its number in order of appearance. -/
structure Session where
  results : Forest
  validators : List Validator
  selections : List Selection
deriving Inhabited

/-- What an operation on a session gives. -/
structure Turn (ν α : Type) where
  session : Session
  notes : List ν
  logs : List LogEvent
  answer : Except Fault α

/-- A question about a result. -/
abbrev ResultCondition := Result → Except Fault Bool

/-- Where the value of a property comes from. -/
inductive ValueSource where
  /-- Read off the object. -/
  | read (extract : Value → Except Fault Value)
  /-- Given by the caller. -/
  | given (value : Value)

/-- When a rule is applied to a selection. -/
inductive Guard where
  | always
  /-- Only if the value passes. -/
  | on (condition : Predicate)
  /-- Only if the property has no failure yet. -/
  | whileClean
  /-- Only if the other element has no failure yet. -/
  | whileCleanFor (other : Option Identifier)

/-- The rule under the guard, for a property. -/
def Guard.wrap {ν : Type} (guard : Guard) (identifier : Option Identifier) (rule : Rule ν) :
    Rule ν :=
  match guard with
  | always => rule
  | on condition => .skipIf rule fun value => (condition value).map (!·)
  | whileClean => .chainIfClean .noop rule [identifier]
  | whileCleanFor other => .chainIfClean .noop rule [other]

namespace Turn

variable {ν α : Type}

/-- A turn that answers and notes nothing. -/
def done (s : Session) (answer : α) : Turn ν α := ⟨s, [], [], .ok answer⟩

/-- A turn that leaves the session as it is and ends in a fault. -/
def stopped (s : Session) (fault : Fault) : Turn ν α := ⟨s, [], [], .error fault⟩

end Turn

namespace Session

variable {ν : Type}

/-- The session in which nothing has happened. -/
def empty : Session := ⟨[], [], []⟩

/-- The result of a validator, as it is now. -/
def resultOf (s : Session) (v : Nat) : Option Result :=
  s.validators[v]?.bind fun validator => s.results.view validator.result

/-- Whether the validator is short-circuited. -/
def isShort (s : Session) (v : Nat) : Bool :=
  match s.validators[v]? with
  | some validator => validator.short
  | none => false

/-- Whether a selection is silenced, alone or by its validator. -/
def isSilent (s : Session) (p : Nat) : Bool :=
  match s.selections[p]? with
  | some selection => selection.short || s.isShort selection.parent
  | none => false

/-! ## Opening validators -/

/-- The session with a fresh result that holds failures, and its number. -/
def addResult (s : Session) (failures : List Failure) : Session × Nat :=
  let (results, r) := s.results.push none
  ({ s with results := failures.foldl (fun results f => results.add r f) results }, r)

/-- The session with one more validator, and its number. -/
def addValidator (s : Session) (v : Validator) : Session × Nat :=
  ({ s with validators := s.validators ++ [v] }, s.validators.length)

/-- The session with one more selection, and its number. -/
def addSelection (s : Session) (p : Selection) : Session × Nat :=
  ({ s with selections := s.selections ++ [p] }, s.selections.length)

/-- The session with a validator of an object that has a fresh result, and its number. -/
def openFresh (s : Session) (target : Value) (short : Bool) : Session × Nat :=
  let (s, r) := s.addResult []
  s.addValidator ⟨target, r, short, none⟩

/-- The session with a validator of an object that reports into an existing result, and its
number. -/
def openOn (s : Session) (target : Value) (r : Nat) (short : Bool) : Turn ν Nat :=
  match s.results.view r with
  | none => .stopped s .missingMember
  | some _ =>
    let (s, v) := s.addValidator ⟨target, r, short, none⟩
    .done s v

/-- The session with a validator whose result is layered over an existing one. There has to be
one. -/
def openOver (s : Session) (target : Value) (parent : Option Nat) : Turn ν Nat :=
  match parent with
  | none => .stopped s .resultMissing
  | some parent =>
    let (results, r) := s.results.push (some parent)
    let (s, v) := { s with results := results }.addValidator ⟨target, r, false, none⟩
    .done s v

/-! ## Selecting properties -/

/-- The value of a property of an object; a missing object has only missing properties. -/
def valueFrom (target : Value) (source : ValueSource) : Except Fault Value :=
  if target.isNull then .ok .null
  else
    match source with
    | .read extract => extract target
    | .given value => .ok value

/-- The session with a property of a validator selected, and the number of the selection. -/
def select (s : Session) (v : Nat) (identifier : Option Identifier) (source : ValueSource) :
    Turn ν Nat :=
  match s.validators[v]? with
  | none => .stopped s .missingMember
  | some validator =>
    match valueFrom validator.target source with
    | .error fault => .stopped s fault
    | .ok value =>
      let (s, p) := s.addSelection ⟨v, identifier, value, false⟩
      .done s p

/-- The session with a property of a selection selected, and the number of the new selection. A
nested validator over the value of the selection is made for it. -/
def selectWithin (s : Session) (p : Nat) (identifier : Option Identifier)
    (extract : Value → Except Fault Value) : Turn ν Nat :=
  match s.selections[p]? with
  | none => .stopped s .missingMember
  | some selection =>
    match s.validators[selection.parent]? with
    | none => .stopped s .missingMember
    | some validator =>
      let (inner, v) :=
        s.addValidator ⟨selection.value, validator.result, s.isSilent p, some p⟩
      let turn := inner.select v identifier (.read extract)
      match turn.answer with
      | .error fault => .stopped s fault
      | .ok _ => turn

/-- The validator of a selection. -/
def parentOf (s : Session) (p : Nat) : Except Fault Nat :=
  match s.selections[p]? with
  | some selection => .ok selection.parent
  | none => .error .missingMember

/-- The selection in which a validator is nested. There has to be one. -/
def ownerOf (s : Session) (v : Nat) : Except Fault Nat :=
  match s.validators[v]? with
  | none => .error .missingMember
  | some validator =>
    match validator.owner with
    | some owner => .ok owner
    | none => .error .topLevel

/-! ## Applying rules -/

/-- The session after a rule has been run into a result. -/
def runInto (s : Session) (r : Nat) (rule : Rule ν) (value : Value)
    (identifier : Option Identifier) : Turn ν Unit :=
  match s.results.view r with
  | none => .stopped s .missingMember
  | some result =>
    let o := rule.run value identifier result
    ⟨{ s with results := s.results.setOwn r o.result.own }, o.notes, [],
      match o.fault with
      | some fault => .error fault
      | none => .ok ()⟩

/-- The session after a rule has been applied to a selection under a guard. A silenced selection
does not even ask. -/
def apply (s : Session) (p : Nat) (guard : Guard) (rule : Rule ν) : Turn ν Unit :=
  match s.selections[p]? with
  | none => .stopped s .missingMember
  | some selection =>
    -- the guard may hold a condition with a fault of its own, which is not reached then
    if s.isSilent p then .done s ()
    else
      match s.validators[selection.parent]? with
      | none => .stopped s .missingMember
      | some validator =>
        s.runInto validator.result (guard.wrap selection.identifier rule) selection.value
          selection.identifier

/-- Shows the value of a selection to a watcher, unless it is silenced or there is no value. -/
def watch (s : Session) (p : Nat) (watcher : Value → Except Fault (List ν)) : Turn ν Unit :=
  match s.selections[p]? with
  | none => .stopped s .missingMember
  | some selection =>
    if s.isSilent p || selection.value.isNull then .done s ()
    else
      match watcher selection.value with
      | .error fault => .stopped s fault
      | .ok notes => ⟨s, notes, [], .ok ()⟩

/-- What a selection hands to further work: its value and its validator, unless it is silenced. -/
def scope? (s : Session) (p : Nat) : Option (Value × Nat) :=
  match s.selections[p]? with
  | none => none
  | some selection =>
    if s.isSilent p then none else some (selection.value, selection.parent)

/-! ## Short-circuiting -/

/-- The session with the validator short-circuited, and the record of it if it was not before. -/
def trip (s : Session) (v : Nat) (reason : String) : Session × List LogEvent :=
  match s.validators[v]? with
  | none => (s, [])
  | some validator =>
    let failures := ((s.results.view validator.result).map (·.size)).getD 0
    ({ s with validators := s.validators.set v { validator with short := true } },
      if validator.short then [] else [.shortCircuited reason failures])

/-- The session after a rule has been run apart from the result of a validator. If it finds
anything, that is added and the validator is short-circuited. -/
def circuitBreaker (s : Session) (v : Nat) (value : Value) (identifier : Option Identifier)
    (rule : Rule ν) : Turn ν Unit :=
  match s.validators[v]? with
  | none => .stopped s .missingMember
  | some validator =>
    -- a fault leaves the result alone, whatever the rule had found by then
    let o := rule.run value identifier .empty
    match o.fault with
    | some fault => ⟨s, o.notes, [], .error fault⟩
    | none =>
      if o.result.hasErrors then
        let results := o.result.failures.foldl (fun results f => results.add validator.result f)
          s.results
        let (s, logs) := { s with results := results }.trip v
          ("circuit breaker on '" ++ identifierText identifier ++ "'")
        ⟨s, o.notes, logs, .ok ()⟩
      else ⟨s, o.notes, [], .ok ()⟩

/-- Short-circuits a validator if its result passes. -/
def shortCircuitIf (s : Session) (v : Nat) (condition : ResultCondition) : Turn ν Unit :=
  match s.resultOf v with
  | none => .stopped s .missingMember
  | some result =>
    match condition result with
    | .error fault => .stopped s fault
    | .ok false => .done s ()
    | .ok true =>
      let (s, logs) := s.trip v "condition met"
      ⟨s, [], logs, .ok ()⟩

/-- Short-circuits a validator if its result has a failure. -/
def shortCircuitIfErrors (s : Session) (v : Nat) : Turn ν Unit :=
  s.shortCircuitIf v fun result => .ok result.hasErrors

/-- Silences a selection if the result passes. -/
def silenceIf (s : Session) (p : Nat) (condition : ResultCondition) : Turn ν Unit :=
  match s.selections[p]? with
  | none => .stopped s .missingMember
  | some selection =>
    match s.resultOf selection.parent with
    | none => .stopped s .missingMember
    | some result =>
      match condition result with
      | .error fault => .stopped s fault
      | .ok false => .done s ()
      | .ok true =>
        .done { s with selections := s.selections.set p { selection with short := true } } ()

/-- Silences a selection if its property has a failure. -/
def silenceIfErrors (s : Session) (p : Nat) : Turn ν Unit :=
  match s.selections[p]? with
  | none => .stopped s .missingMember
  | some selection => s.silenceIf p fun result => .ok (result.hasErrorFor selection.identifier)

/-- Copies what the scope of another validator holds of its own into the result of a validator. A
validator without a scope has nothing to copy. -/
def merge (s : Session) (v other : Nat) : Turn ν Unit :=
  match s.validators[v]?, s.resultOf other with
  | some validator, some result =>
    let own := result.scopedFailures?.getD []
    .done { s with
      results := own.foldl (fun results f => results.add validator.result f) s.results } ()
  | _, _ => .stopped s .missingMember

end Session

end Verdict
