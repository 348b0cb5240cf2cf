import Verdict.Identifier
import Verdict.Text.Digits

/-!
# Faults

A fault is the reason why an operation gives no answer. Each is a cause; `Fault.family` says what
sort of mistake it is and `Fault.message?` how it reads, where it has a wording of its own.

A fault inside a named rule is wrapped once per name on the way out; `Fault.root` undoes the
wrapping. A catalog that cannot be loaded is refused with its issues: an `Issue` says in which file
something is wrong, what it is, and where in the document.

A step that succeeded is taken apart into the steps that it was made of, each of which succeeded
(`exists_of_bind_eq_ok`, `exists_of_map_eq_ok`).
-/

namespace Verdict

open Text

/-- A problem found in a template catalog. -/
structure Issue where
  file : String
  message : String
  /-- The place within the document, empty for the document itself. -/
  location : String
deriving DecidableEq, Repr, Inhabited

/-- The issue in one line. -/
def Issue.text (i : Issue) : String :=
  let place := if i.location.isEmpty then "" else " at " ++ i.location
  "[ERROR] " ++ i.file ++ place ++ ": " ++ i.message

/-- What is reported of a catalog that cannot be loaded. -/
def catalogMessage (file : String) (issues : List Issue) : String :=
  "Invalid template catalog " ++ file ++ ": " ++ "; ".intercalate (issues.map (·.message))

/-- The sorts of mistake. -/
inductive FaultFamily where
  /-- A value of the wrong kind for the operation. -/
  | kind
  /-- A value that lacks the operation asked of it. -/
  | member
  /-- A value of the right kind that is not acceptable. -/
  | value
  /-- A key that is not there. -/
  | key
  /-- A position that is not there. -/
  | index
  /-- An operation at the wrong time. -/
  | state
  /-- A division by zero. -/
  | division
  /-- A number that is too large. -/
  | overflow
  /-- A text pattern that cannot be read. -/
  | pattern
  /-- Bytes that are not text. -/
  | encoding
  /-- A fault inside a named rule. -/
  | execution
  /-- A catalog that cannot be loaded. -/
  | catalog
deriving DecidableEq, Repr, Inhabited

/-- The reason why an operation gives no answer. -/
inductive Fault where
  /-- Two values that cannot be used together, or a value of the wrong kind. -/
  | unsupported
  /-- A value without the asked operation. -/
  | missingMember
  | missingKey
  | indexOutOfRange
  | notOwned (index : Int)
  | integerDivisionByZero
  | realDivisionByZero
  | overflow
  | malformedPattern
  | undecodable
  | identifierMissing
  | codeMissing
  | severityMissing
  | enricherMissing
  | enricherAbsent
  | enrichedNothing
  | ruleAbsent
  | limitMissing (key : String)
  | limitNegative (key : String)
  | rangeMissing
  | rangeNegative
  | rangeInverted (minimum maximum : String)
  | descriptionMissing
  | descriptionBlank
  | valuesMissing
  | valuesEmpty
  | conditionMissing
  | kindMissing
  | patternMissing
  | patternBlank
  | replacementMismatch (given expected : Identifier)
  | parentMissing
  | resultMissing
  | topLevel
  | pathWithNul
  | yearOutOfRange (year : Nat)
  | monthOutOfRange
  | dayOutOfRange
  | hourOutOfRange
  | minuteOutOfRange
  | secondOutOfRange
  | offsetOutOfRange (duration : String)
  | digitsMissing (base : Nat) (text : String)
  | realUnreadable (text : String)
  | emptyText
  | characterOutOfRange
  /-- An integer with more digits than can be written. -/
  | integerTooLong
  /-- An integer that cannot be read because it has so many digits. -/
  | digitsTooMany (count : Nat)
  /-- A fault that the caller's own code gives. -/
  | raised (family : FaultFamily) (text : String)
  | catalogInvalid (file : String) (issues : List Issue)
  | execution (name : String) (identifier : Option Identifier) (cause : Fault)
deriving DecidableEq, Repr, Inhabited

namespace Fault

/-- The sort of mistake. -/
def family : Fault → FaultFamily
  | unsupported | enricherAbsent | enrichedNothing | ruleAbsent => .kind
  | missingMember => .member
  | missingKey => .key
  | indexOutOfRange | notOwned _ | emptyText => .index
  | integerDivisionByZero | realDivisionByZero => .division
  | overflow => .overflow
  | malformedPattern => .pattern
  | undecodable => .encoding
  | topLevel => .state
  | raised family _ => family
  | catalogInvalid _ _ => .catalog
  | execution _ _ _ => .execution
  | _ => .value

/-- What is said of the limit on digits, with what it was exceeded by. -/
def limitMessage (excess : String) : String :=
  "Exceeds the limit (" ++ decimal digitLimit ++ " digits) for integer string conversion" ++
    excess ++ "; use sys.set_int_max_str_digits() to increase the limit"

/-- How the fault reads; some have no wording of their own. -/
def message? : Fault → Option String
  | unsupported | missingMember | missingKey | overflow | malformedPattern | undecodable => none
  | indexOutOfRange => some "list index out of range"
  | notOwned index => some ("Failure " ++ decimal index ++ " is not owned by this scope")
  | integerDivisionByZero => some "integer modulo by zero"
  | realDivisionByZero => some "float modulo"
  | identifierMissing => some "Identifier must not be null"
  | codeMissing => some "Error code must not be null or empty"
  | severityMissing => some "Severity must not be null"
  | enricherMissing => some "Enricher must not be null"
  | enricherAbsent => some "Enricher must not be None"
  | enrichedNothing => some "Enricher must return a FailureMetadata, got None"
  | ruleAbsent => some "Validation rule must not be None"
  | limitMissing key => some (key ++ " must not be null")
  | limitNegative key => some (key ++ " cannot be negative")
  | rangeMissing => some "Range bounds must not be null"
  | rangeNegative => some "Range bounds cannot be negative"
  | rangeInverted minimum maximum =>
    some ("Minimum value must be less than or equal to maximum value (" ++ minimum ++ " > " ++
      maximum ++ ")")
  | descriptionMissing => some "Condition description must not be null"
  | descriptionBlank => some "Condition description must not be blank"
  | valuesMissing => some "Values must not be null"
  | valuesEmpty => some "At least one value is required"
  | conditionMissing => some "Condition predicate must not be null"
  | kindMissing => some "Class must not be null"
  | patternMissing => some "Pattern must not be null"
  | patternBlank => some "Pattern must not be blank"
  | replacementMismatch given expected =>
    some ("Replacement failure is for '" ++ given.text ++ "', expected '" ++ expected.text ++ "'")
  | parentMissing => some "Parent result must not be null"
  | resultMissing => some "ValidationResult must not be null"
  | topLevel => some "end() called on a top-level validator"
  | pathWithNul => some "embedded null byte"
  | yearOutOfRange year => some ("year " ++ decimal year ++ " is out of range")
  | monthOutOfRange => some "month must be in 1..12"
  | dayOutOfRange => some "day is out of range for month"
  | hourOutOfRange => some "hour must be in 0..23"
  | minuteOutOfRange => some "minute must be in 0..59"
  | secondOutOfRange => some "second must be in 0..59"
  | offsetOutOfRange duration =>
    some ("offset must be a timedelta strictly between -timedelta(hours=24) and " ++
      "timedelta(hours=24), not " ++ duration ++ ".")
  | digitsMissing base text =>
    some ("invalid literal for int() with base " ++ decimal base ++ ": " ++ text)
  | realUnreadable text => some ("could not convert string to float: " ++ text)
  | emptyText => some "string index out of range"
  | characterOutOfRange => some "chr() arg not in range(0x110000)"
  | integerTooLong => some (limitMessage "")
  | digitsTooMany count => some (limitMessage (": value has " ++ decimal count ++ " digits"))
  | raised family text => if family = .key then none else some text
  | catalogInvalid file issues => some (catalogMessage file issues)
  | execution name identifier cause =>
    cause.message?.map fun text =>
      "Error in validation rule '" ++ name ++ "' for identifier '" ++ identifierText identifier ++
        "': " ++ text

/-- The fault without the names of the rules that it passed through. -/
def root : Fault → Fault
  | execution _ _ cause => cause.root
  | fault => fault

/-- The names of the rules that the fault passed through, outermost first. -/
def names : Fault → List String
  | execution name _ cause => name :: cause.names
  | _ => []

end Fault

/-! ## Steps that can fail -/

section

variable {ε α β : Type}

/-- Of two steps that succeed together, each does. -/
theorem exists_of_bind_eq_ok {x : Except ε α} {next : α → Except ε β} {b : β}
    (h : (x >>= next) = .ok b) : ∃ a, x = .ok a ∧ next a = .ok b := by
  cases x with
  | error fault => cases h
  | ok a => exact ⟨a, rfl, h⟩

/-- What a success was made of, if it was changed on the way. -/
theorem exists_of_map_eq_ok {x : Except ε α} {change : α → β} {b : β}
    (h : x.map change = .ok b) : ∃ a, x = .ok a ∧ change a = b := by
  cases x with
  | error fault => cases h
  | ok a => exact ⟨a, rfl, Except.ok.inj h⟩

end

end Verdict
