import Verdict.Failure
import Verdict.Text.Ranges
import Verdict.Value.Content
import Verdict.Value.Display

/-!
# Shapes of failures

Built-in checks describe what is wrong in one of seven shapes: a flag, a bound, a pair of bounds, a
reference, a class, a described condition, or a set of values. Each shape has a contract for its
arguments; `Shape.check` judges it, and `Shape.failure` gives the failure with the parameters of the
shape. A check judges its arguments when it is built, so that no contract is broken later.
-/

namespace Verdict

/-- A limit must be given, and must not be negative where lengths and sizes are meant. -/
def requireLimit (key : String) (limit : Value) (nonNegative : Bool) : Except Fault Unit := do
  if limit.isNull then .error (.limitMissing key)
  else if nonNegative then
    if ← limit.related .below (.int 0) then .error (.limitNegative key) else return
  else return

/-- Whether one of two bounds is negative; the second is asked only if the first is not. -/
def eitherNegative (minimum maximum : Value) : Except Fault Bool := do
  if ← minimum.related .below (.int 0) then return true else maximum.related .below (.int 0)

/-- The fault of a lower bound above the upper one, which shows both if they can be written. -/
def invertedRange (minimum maximum : Value) : Fault :=
  match Value.requireWritable [minimum, maximum] with
  | .ok _ => .rangeInverted minimum.display maximum.display
  | .error fault => fault

/-- Bounds must be given, must not be negative where sizes are meant, and the lower must not lie
above the upper. -/
def requireRange (minimum maximum : Value) (nonNegative : Bool) : Except Fault Unit := do
  if minimum.isNull || maximum.isNull then .error .rangeMissing
  else
    let negative ← if nonNegative then eitherNegative minimum maximum else pure false
    if negative then .error .rangeNegative
    else if ← minimum.related .above maximum then .error (invertedRange minimum maximum)
    else return

/-- A description must be given and must not be blank. -/
def requireDescription : Option String → Except Fault String
  | none => .error .descriptionMissing
  | some text => if Text.strip text = "" then .error .descriptionBlank else .ok text

/-- The parts of a set of values, of which there must be one at least. -/
def requireValues (values : Value) : Except Fault (List Value) := do
  if values.isNull then .error .valuesMissing
  else
    let items ← values.parts?
    if items.isEmpty then .error .valuesEmpty else return items

/-- The values as a message shows them. -/
def joinValues (items : List Value) : Except Fault String := do
  Value.requireWritable items
  return ", ".intercalate (items.map (·.display))

/-- The parts of a value as a message shows them. -/
def formatValues (values : Value) : Except Fault String := do joinValues (← values.parts?)

/-- The name of a class. -/
def requireName : Option String → Except Fault String
  | none => .error .missingMember
  | some name => .ok name

/-- What a failure tells about the check that failed. -/
inductive Shape where
  /-- Nothing but the code. -/
  | flag
  /-- One limit, which may be shown under further names. -/
  | bound (key : String) (limit : Value) (nonNegative : Bool) (aliases : List String)
  /-- A lower and an upper limit. -/
  | bounds (minKey : String) (minimum : Value) (maxKey : String) (maximum : Value)
      (nonNegative : Bool)
  /-- A value that was compared with; nothing is shown as a word if it is allowed. -/
  | reference (key : String) (value : Value) (allowNull : Bool)
  /-- The name of a class. -/
  | className (name : Option String)
  /-- A condition in words. -/
  | predicate (description : Option String)
  /-- A set of values. -/
  | membership (values : Value) (key : String)
deriving Inhabited

namespace Shape

/-- A value to compare with must be given unless nothing is allowed. -/
def requireReference (key : String) (value : Value) (allowNull : Bool) : Except Fault Unit :=
  if value.isNull && !allowNull then .error (.limitMissing key) else .ok ()

/-- The parameters of the shape, if its arguments keep the contract. -/
def parameters : Shape → Except Fault Parameters
  | flag => .ok []
  | bound key limit nonNegative aliases => do
    requireLimit key limit nonNegative
    return (key :: aliases).foldl (fun t name => t.set name limit) []
  | bounds minKey minimum maxKey maximum nonNegative => do
    requireRange minimum maximum nonNegative
    return Table.set maxKey maximum [(minKey, minimum)]
  | reference key value allowNull => do
    requireReference key value allowNull
    return [(key, if value.isNull then .text "null" else value)]
  | className name => do return [(Parameter.className, .text (← requireName name))]
  | predicate description => do
    let text ← requireDescription description
    return [(Parameter.condition, .text text)]
  | membership values key => do
    let items ← requireValues values
    return [(key, .text (← joinValues items))]

/-- Whether the arguments keep the contract of the shape. -/
def check (s : Shape) : Except Fault Unit := s.parameters.map fun _ => ()

/-- What is read before all else: a class is asked for its name. -/
def prepare : Shape → Except Fault Unit
  | className name => (requireName name).map fun _ => ()
  | _ => .ok ()

/-- The failure for an element under a code. The name of a class is asked for first, then the
identifier, then the contract of the shape, then the code. -/
def failure (s : Shape) (identifier : Option Identifier) (code : Option String) :
    Except Fault Failure := do
  s.prepare
  match identifier with
  | none => .error .identifierMissing
  | some id =>
    let parameters ← s.parameters
    Failure.create (some id) code parameters

end Shape

end Verdict
