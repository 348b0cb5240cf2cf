import Verdict.Failure

/-!
# Results

A `Ledger` collects failures in the order in which they are recorded, and keeps an index of them by
the element they concern. `Ledger.Consistent` says that the index is the list seen by element; both
ways of changing a ledger keep it, so every question by element is a question about the list.

A `Result` is a ledger of its own, or one layered over a parent. Questions are answered about the
failures of the parent followed by its own; changes only ever touch its own ledger.
-/

namespace Verdict

/-! ## The index -/

/-- Failures by element, elements in order of first appearance. -/
abbrev FailureIndex := List (Identifier × List Failure)

namespace FailureIndex

/-- The failures of an element. -/
def find (id : Identifier) : FailureIndex → List Failure
  | [] => []
  | (i, fs) :: rest => if i = id then fs else find id rest

/-- The index with more failures of an element. -/
def extend (id : Identifier) (more : List Failure) : FailureIndex → FailureIndex
  | [] => [(id, more)]
  | (i, fs) :: rest =>
    if i = id then (i, fs ++ more) :: rest else (i, fs) :: extend id more rest

/-- The index with the failures of an element changed. -/
def adjust (id : Identifier) (change : List Failure → List Failure) : FailureIndex → FailureIndex
  | [] => []
  | (i, fs) :: rest =>
    if i = id then (i, change fs) :: rest else (i, fs) :: adjust id change rest

/-- The index of a list of failures. -/
def ofList (fs : List Failure) : FailureIndex :=
  fs.foldl (fun index f => extend f.identifier [f] index) []

/-- One index after another. -/
def merge (first second : FailureIndex) : FailureIndex :=
  second.foldl (fun index e => extend e.1 e.2 index) first

end FailureIndex

/-! ## Ledgers -/

/-- Failures in order, and their index. -/
structure Ledger where
  entries : List Failure
  index : FailureIndex
deriving Inhabited

/-- The place that an index names: from the end when it is negative. -/
def placeOf (size : Nat) (index : Int) : Int := if index < 0 then index + size else index

namespace Ledger

/-- The ledger without failures. -/
def empty : Ledger := ⟨[], []⟩

/-- The ledger with one more failure. -/
def add (l : Ledger) (f : Failure) : Ledger :=
  ⟨l.entries ++ [f], l.index.extend f.identifier [f]⟩

/-- The ledger with the failure at an index replaced by one for the same element. The place within
the failures of the element is the number of those before it. -/
def replace (l : Ledger) (index : Int) (f : Failure) : Except Fault Ledger :=
  let place := placeOf l.entries.length index
  if place < 0 then .error .indexOutOfRange
  else
    match l.entries[place.toNat]? with
    | none => .error .indexOutOfRange
    | some previous =>
      if f.identifier = previous.identifier then
        let earlier := (l.entries.take place.toNat).countP (·.identifier = previous.identifier)
        .ok ⟨l.entries.set place.toNat f,
          l.index.adjust previous.identifier fun fs => fs.set earlier f⟩
      else .error (.replacementMismatch f.identifier previous.identifier)

/-- The index is the list seen by element. -/
def Consistent (l : Ledger) : Prop := l.index = FailureIndex.ofList l.entries

end Ledger

/-! ## Results -/

/-- Failures of one validation, perhaps layered over those of another. -/
inductive Result where
  | plain (own : Ledger)
  | layered (parent : Result) (own : Ledger)
deriving Inhabited

/-- What a result answers to every question about its failures. -/
structure Answers where
  failures : List Failure
  size : Nat
  hasErrors : Bool
  hasErrorFor : Option Identifier → Bool
  errorsFor : Option Identifier → List Failure
  byIdentifier : FailureIndex
  blockingFailures : List Failure

namespace Result

/-- The result without failures. -/
def empty : Result := .plain .empty

/-- The ledger that changes go to. -/
def own : Result → Ledger
  | plain l => l
  | layered _ l => l

/-- The result with another ledger of its own. -/
def withOwn : Result → Ledger → Result
  | plain _, l => plain l
  | layered parent _, l => layered parent l

/-- All failures: those of the parent, then its own. -/
def failures : Result → List Failure
  | plain l => l.entries
  | layered parent l => parent.failures ++ l.entries

/-- The result that it is layered over, if it is. -/
def parent? : Result → Option Result
  | plain _ => none
  | layered parent _ => some parent

/-- The failures of its own, if the result is layered over another. -/
def scopedFailures? : Result → Option (List Failure)
  | plain _ => none
  | layered _ l => some l.entries

/-- The number of failures. -/
def size : Result → Nat
  | plain l => l.entries.length
  | layered parent l => parent.size + l.entries.length

/-- Whether there is a failure. -/
def hasErrors : Result → Bool
  | plain l => !l.entries.isEmpty
  | layered parent l => !l.entries.isEmpty || parent.hasErrors

/-- Whether there is a failure of the element. -/
def hasErrorsOf (id : Identifier) : Result → Bool
  | plain l => !(l.index.find id).isEmpty
  | layered parent l => !(l.index.find id).isEmpty || parent.hasErrorsOf id

/-- Whether there is a failure of the element; a missing element has none. -/
def hasErrorFor (r : Result) : Option Identifier → Bool
  | some id => r.hasErrorsOf id
  | none => false

/-- The failures of the element, in order. -/
def errorsOf (id : Identifier) : Result → List Failure
  | plain l => l.index.find id
  | layered parent l => parent.errorsOf id ++ l.index.find id

/-- The failures of the element, in order; a missing element has none. -/
def errorsFor (r : Result) : Option Identifier → List Failure
  | some id => r.errorsOf id
  | none => []

/-- The failures by element, elements in order of first appearance. -/
def byIdentifier : Result → FailureIndex
  | plain l => l.index
  | layered parent l => parent.byIdentifier.merge l.index

/-- The failures that halt what comes after. -/
def blockingFailures (r : Result) : List Failure := r.failures.filter (·.isBlocking)

/-- The answers of the result as it is now. -/
def answers (r : Result) : Answers where
  failures := r.failures
  size := r.size
  hasErrors := r.hasErrors
  hasErrorFor := r.hasErrorFor
  errorsFor := r.errorsFor
  byIdentifier := r.byIdentifier
  blockingFailures := r.blockingFailures

/-- The result with one more failure. -/
def add (r : Result) (f : Failure) : Result := r.withOwn (r.own.add f)

/-- The result with failures added one after the other. -/
def addAll (r : Result) (fs : List Failure) : Result := fs.foldl add r

/-- The result with the failure at an index of all failures replaced by one for the same element.
A failure of the parent cannot be replaced. -/
def replace (r : Result) (index : Int) (f : Failure) : Except Fault Result :=
  match r with
  | plain l => (l.replace index f).map plain
  | layered parent l =>
    let place := placeOf r.size index
    if parent.size ≤ place ∧ place < r.size then
      (l.replace (place - parent.size) f).map (layered parent)
    else .error (.notOwned place)

/-- The failure at an index of all failures. -/
def failureAt (r : Result) (index : Int) : Except Fault Failure :=
  let place := placeOf r.size index
  let found := if place < 0 then none else r.failures[place.toNat]?
  found.elim (.error .indexOutOfRange) .ok

/-- The result in short. -/
def text : Result → String
  | plain l => "ValidationResult(failures=" ++ Text.decimal l.entries.length ++ ")"
  | layered parent l =>
    "ScopedValidationResult(parent=" ++ Text.decimal parent.size ++ ", scoped=" ++
      Text.decimal l.entries.length ++ ")"

end Result

end Verdict
