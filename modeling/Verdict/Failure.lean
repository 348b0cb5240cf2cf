import Verdict.Calendar.Written
import Verdict.Fault
import Verdict.Parameter

/-!
# Failures

A failure describes one thing that is wrong: which element, by which code, with which parameters,
and the labels that callers put on it. Records never change; each update gives a new record.

Every failure has the parameter `field`: `Failure.create` seeds it from the identifier, and the
parameters given by the caller are written over it.
-/

namespace Verdict

/-! ## Severities -/

/-- How grave a failure is. -/
inductive Severity where
  | error
  | warning
  | info
deriving DecidableEq, Repr, Inhabited

/-- The severities in order. -/
def Severity.all : List Severity := [.error, .warning, .info]

/-- The name of a severity. -/
def Severity.name : Severity → String
  | .error => "ERROR"
  | .warning => "WARNING"
  | .info => "INFO"

/-- The text of a severity in a record. -/
def Severity.text : Severity → String
  | .error => "error"
  | .warning => "warning"
  | .info => "info"

/-- What a caller gives as a severity: one of the severities, or some text that is none. -/
inductive SeverityLabel where
  | level (s : Severity)
  | other (text : String)
deriving DecidableEq, Repr, Inhabited

/-- The severity of a label; text is not one. -/
def SeverityLabel.severity? : SeverityLabel → Except Fault Severity
  | .level s => .ok s
  | .other _ => .error .missingMember

/-! ## Failures -/

/-- One thing that is wrong. -/
structure Failure where
  identifier : Identifier
  code : String
  parameters : Parameters
  severity : Option SeverityLabel
  category : Option String
  group : Option String
  blocking : Option Bool
  /-- When the failure was recorded, if a time was given. -/
  time : Option Moment
  source : Option String
  additionalCode : Option String
deriving Inhabited

namespace Failure

/-- A failure with the default labels. Identifier and code have to be given, and the code must not
be empty; the given parameters are written over the seeded one. -/
def create (identifier : Option Identifier) (code : Option String) (parameters : Parameters) :
    Except Fault Failure :=
  match identifier with
  | none => .error .identifierMissing
  | some id =>
    match code with
    | none => .error .codeMissing
    | some code =>
      if code = "" then .error .codeMissing
      else .ok {
        identifier := id
        code := code
        parameters := Table.overlay [(Parameter.field, .text id.text)] parameters
        severity := some (.level .error)
        category := none
        group := none
        blocking := some true
        time := none
        source := none
        additionalCode := none }

/-- The failure with one parameter written. -/
def withParameter (f : Failure) (name : String) (value : Value) : Failure :=
  { f with parameters := f.parameters.set name value }

/-- The failure with a severity, which is repeated among the parameters. -/
def withSeverity (f : Failure) (label : Option SeverityLabel) : Except Fault Failure := do
  match label with
  | none => .error .severityMissing
  | some label =>
    let s ← label.severity?
    return { f with
      severity := some label
      parameters := f.parameters.set Parameter.severity (.text s.name) }

/-- The failure with a category, which is repeated among the parameters when there is one. -/
def withCategory (f : Failure) (category : Option String) : Failure :=
  { f with
    category := category
    parameters := match category with
      | some text => f.parameters.set Parameter.category (.text text)
      | none => f.parameters }

/-- The failure with a group. -/
def withGroup (f : Failure) (group : Option String) : Failure := { f with group := group }

/-- The failure, blocking or not. -/
def withBlocking (f : Failure) (blocking : Option Bool) : Failure := { f with blocking := blocking }

/-- The failure with the component that found it. -/
def withSource (f : Failure) (source : Option String) : Failure := { f with source := source }

/-- The failure with a code of the caller's own. -/
def withAdditionalCode (f : Failure) (code : Option String) : Failure :=
  { f with additionalCode := code }

/-- Whether the failure halts what comes after. -/
def isBlocking (f : Failure) : Bool := f.blocking == some true

/-- The text of the severity; a failure whose severity is none of the severities has no text. -/
def severityText? (f : Failure) : Except Fault String :=
  match f.severity with
  | some label => label.severity?.map (·.text)
  | none => .error .missingMember

/-- A text that may be missing, as a value. -/
def textValue (text : Option String) : Value := (text.map Value.text).getD .null

/-- The parameters as a mapping. -/
def parameterValue (p : Parameters) : Value := .mapping (p.map fun e => (.text e.1, e.2))

/-- The failure as a record of named values; the time of recording is told if there is one. -/
def record (f : Failure) : Except Fault (Table Value) :=
  f.severityText?.map fun severity =>
    [("identifier", .text f.identifier.text),
      ("identifierKind", .text f.identifier.kind.text),
      ("code", .text f.code),
      ("parameters", parameterValue f.parameters),
      ("severity", .text severity),
      ("category", textValue f.category),
      ("validationGroup", textValue f.group),
      ("blocking", (f.blocking.map Value.bool).getD .null),
      ("source", textValue f.source),
      ("additionalErrorCode", textValue f.additionalCode)] ++
    (f.time.map fun m => ("validationTime", Value.text m.text)).toList

end Failure

/-! ## Enrichment -/

/-- A change of a failure that may give nothing or a fault. -/
abbrev Enricher := Failure → Except Fault (Option Failure)

/-- The outcome of an enricher that may be missing. -/
def Failure.enrich (f : Failure) (enricher : Option Enricher) : Except Fault (Option Failure) :=
  match enricher with
  | none => .error .enricherMissing
  | some e => e f

/-! ## Sameness -/

mutual

/-- Whether two stored values are the same: they mean the same or both are undefined numbers. -/
def Value.same : Value → Value → Bool
  | .float .nan, .float .nan => true
  | .list xs, .list ys => sameEach xs ys
  | .tuple xs, .tuple ys => sameEach xs ys
  | a, b => a.equals b

/-- Whether two sequences of stored values are the same part by part. -/
def sameEach : List Value → List Value → Bool
  | [], [] => true
  | x :: xs, y :: ys => Value.same x y && sameEach xs ys
  | _, _ => false

end

/-- Whether two tables of parameters hold the same values under the same names. -/
def Parameters.same (p q : Parameters) : Bool :=
  p.length == q.length && p.all fun e =>
    match q.get? e.1 with
    | some v => e.2.same v
    | none => false

/-- Whether two recorded times are the same. -/
def sameTime : Option Moment → Option Moment → Bool
  | some m, some n => (Value.moment m).equals (.moment n)
  | none, none => true
  | _, _ => false

/-- Whether two failures are the same record. -/
def Failure.same (f g : Failure) : Bool :=
  f.identifier == g.identifier && f.code == g.code && f.parameters.same g.parameters &&
    f.severity == g.severity && f.category == g.category && f.group == g.group &&
    f.blocking == g.blocking && sameTime f.time g.time && f.source == g.source &&
    f.additionalCode == g.additionalCode

end Verdict
