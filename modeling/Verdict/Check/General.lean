import Verdict.Check.Collection
import Verdict.Check.Date
import Verdict.Check.Number
import Verdict.Check.Text

/-!
# Checks for any value, and the built-in checks

Checks for any value ask about presence, equality, class, membership, and conditions of the
caller's own.

A `Request` names one of the built-in checks, of this or another family, with its arguments.
`Request.build` gives the check or the fault of the arguments.
-/

namespace Verdict

/-- The checks for values of any kind, with the arguments that they are asked for. -/
inductive GeneralCheck where
  | notNull
  | mustBeNull
  | isEqual (expected : Value)
  | isNotEqual (unexpected : Value)
  | satisfies (condition : Option Predicate) (description : Option String)
  | isInstanceOf (kind : Option ValueClass)
  | oneOf (allowed : Value)
  | noneOf (disallowed : Value)
deriving Inhabited

namespace GeneralCheck

/-- The check, if its arguments are acceptable. -/
def build : GeneralCheck → Except Fault Check
  | notNull => .ok ⟨.notNull, .flag, false, fun v => .ok !v.isNull, fun _ => []⟩
  | mustBeNull => .ok ⟨.mustBeNull, .flag, false, fun v => .ok v.isNull, fun _ => []⟩
  | isEqual expected =>
    .ok ⟨.isEqual, .reference Parameter.value expected true, false,
      fun v => .ok (v.equals expected), fun _ => []⟩
  | isNotEqual unexpected =>
    .ok ⟨.isNotEqual, .reference Parameter.value unexpected true, false,
      fun v => .ok !v.equals unexpected, fun _ => []⟩
  | satisfies none _ => .error .conditionMissing
  | satisfies (some condition) description =>
    Check.accept ⟨.satisfies, .predicate description, false, condition, fun _ => []⟩
  | isInstanceOf none => .error .kindMissing
  | isInstanceOf (some kind) =>
    .ok ⟨.isInstanceOf, .className kind.name, true, kind.test, fun _ => []⟩
  | oneOf allowed => do
    let items ← requireValues allowed
    return ⟨.allowedValuesOneOf, .membership (.list items) Parameter.allowedValues, true,
      fun v => .ok (v.among items), fun _ => []⟩
  | noneOf disallowed => do
    let items ← requireValues disallowed
    return ⟨.noneOf, .membership (.list items) Parameter.allowedValues, true,
      fun v => .ok !v.among items, fun _ => []⟩

end GeneralCheck

/-- One of the built-in checks with the arguments that it is asked for. -/
inductive Request where
  | general (c : GeneralCheck)
  | text (c : TextCheck)
  | number (c : NumberCheck)
  | collection (c : CollectionCheck)
  | date (c : DateCheck)
deriving Inhabited

/-- The check, if its arguments are acceptable. -/
def Request.build : Request → Except Fault Check
  | general c => c.build
  | text c => c.build
  | number c => c.build
  | collection c => c.build
  | date c => c.build

end Verdict
