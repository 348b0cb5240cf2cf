import Verdict.Check

/-!
# Checks for numbers

Limits and signs. Nothing passes all of them. The order is that of values, so the limits may also
be texts or dates if the values are.
-/

namespace Verdict

/-- The checks for numbers, with the arguments that they are asked for. -/
inductive NumberCheck where
  | minValue (minimum : Value)
  | maxValue (maximum : Value)
  | inRange (minimum maximum : Value)
  | positive
  | negative
  | notZero
deriving Inhabited

namespace NumberCheck

/-- The check, if its arguments are acceptable. -/
def build : NumberCheck → Except Fault Check
  | minValue minimum =>
    Check.accept ⟨.min, .bound Parameter.min minimum false [], true,
      fun v => v.related .atLeast minimum, fun _ => []⟩
  | maxValue maximum =>
    Check.accept ⟨.max, .bound Parameter.max maximum false [], true,
      fun v => v.related .atMost maximum, fun _ => []⟩
  | inRange minimum maximum =>
    Check.accept ⟨.range, .bounds Parameter.min minimum Parameter.max maximum false, true,
      Value.within minimum maximum, fun _ => []⟩
  | positive => .ok (Check.flag .positive fun v => v.related .above (.int 0))
  | negative => .ok (Check.flag .negative fun v => v.related .below (.int 0))
  | notZero => .ok (Check.flag .notZero fun v => .ok !v.equals (.int 0))

end NumberCheck

end Verdict
