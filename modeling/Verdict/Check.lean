import Verdict.Code
import Verdict.Shape

/-!
# Checks

A check is a question about a value together with the shape of the failure it reports. It answers
with nothing when the value passes, with a failure when it does not, and with a fault when the
question cannot be asked of the value. `Check.judge` is that answer.

A check is built by a function that judges its arguments first: an argument that the shape of the
failure could not carry is refused then, and not while values are checked.
-/

namespace Verdict

/-- A question about a value that may be unanswerable. -/
abbrev Predicate := Value → Except Fault Bool

/-- A question about a value, and how a negative answer is reported. -/
structure Check where
  code : Code
  shape : Shape
  /-- Whether nothing passes without being asked about. -/
  skipsNull : Bool
  /-- Whether the value passes. -/
  test : Predicate
  /-- Further parameters, read off a refused value. -/
  details : Value → Parameters
deriving Inhabited

namespace Check

/-- The failure that reports a refused value. -/
def failure (c : Check) (value : Value) (identifier : Option Identifier) : Except Fault Failure :=
  (c.shape.failure identifier (some c.code.text)).map fun f =>
    (c.details value).foldl (fun f p => f.withParameter p.1 p.2) f

/-- The answer of a check: the failure that it reports, if any. -/
def judge (c : Check) (value : Value) (identifier : Option Identifier) :
    Except Fault (Option Failure) := do
  if c.skipsNull && value.isNull then return none
  else if ← c.test value then return none
  else return some (← c.failure value identifier)

/-- The check, if its shape keeps the contract. -/
def accept (c : Check) : Except Fault Check := c.shape.check.map fun _ => c

/-- A check of its own kind of failure without parameters. -/
def flag (code : Code) (test : Predicate) : Check := ⟨code, .flag, true, test, fun _ => []⟩

end Check

end Verdict
