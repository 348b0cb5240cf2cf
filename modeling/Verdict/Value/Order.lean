import Verdict.Fault
import Verdict.Value

/-!
# The order of values

Numbers are ordered by their place, text by its characters, sequences by the first parts that
differ, dates by their day and moments by their count beside each other. `Value.compare?` gives the
order of two values, nothing when one of them is the undefined number, and a fault when the values
have no order; a `Relation` reads that answer.
-/

namespace Verdict

open Number

/-- A question about the order of two values. -/
inductive Relation where
  | below
  | atMost
  | above
  | atLeast
deriving DecidableEq, Repr, Inhabited

/-- Whether the order answers the question with yes. Values without order are in no relation. -/
def Relation.holds : Relation → Option Ordering → Bool
  | _, none => false
  | .below, some o => o == .lt
  | .atMost, some o => o != .gt
  | .above, some o => o == .gt
  | .atLeast, some o => o != .lt

/-- The order of two texts by the numbers of their characters. -/
def compareChars : List Char → List Char → Ordering
  | [], [] => .eq
  | [], _ :: _ => .lt
  | _ :: _, [] => .gt
  | c :: cs, d :: ds =>
    if c.toNat < d.toNat then .lt else if d.toNat < c.toNat then .gt else compareChars cs ds

/-- The order of two integers. -/
def compareInt (a b : Int) : Ordering := if a < b then .lt else if a = b then .eq else .gt

/-- The order of two places, if both are known. -/
def comparePlaces : Option Place → Option Place → Option Ordering
  | some p, some q => some (p.compare q)
  | _, _ => none

namespace Value

/-- Whether the value is a truth value or a number. -/
def isNumeric : Value → Bool
  | .bool _ | .int _ | .float _ => true
  | _ => false

/-- The order of two values of which the first is numeric. -/
def compareNumeric (a b : Value) : Except Fault (Option Ordering) :=
  if b.isNumeric then .ok (comparePlaces a.place? b.place?) else .error .unsupported

mutual

/-- The order of two values. -/
def compare? : Value → Value → Except Fault (Option Ordering)
  | .bool x, b => compareNumeric (.bool x) b
  | .int i, b => compareNumeric (.int i) b
  | .float x, b => compareNumeric (.float x) b
  | .text s, .text t => .ok (some (compareChars s.toList t.toList))
  | .list xs, .list ys => compareEach xs ys
  | .tuple xs, .tuple ys => compareEach xs ys
  | .date d, .date e => .ok (some (compareInt d.number e.number))
  | .moment m, .moment n =>
    if m.hasZone == n.hasZone then .ok (some (compareInt (m.countBeside n) (n.countBeside m)))
    else .error .unsupported
  | _, _ => .error .unsupported

/-- The order of two sequences: that of the first parts that differ, or of their lengths. -/
def compareEach : List Value → List Value → Except Fault (Option Ordering)
  | [], [] => .ok (some .eq)
  | [], _ :: _ => .ok (some .lt)
  | _ :: _, [] => .ok (some .gt)
  | x :: xs, y :: ys => if x.equals y then compareEach xs ys else compare? x y

end

/-- Whether two values are in the relation. -/
def related (r : Relation) (a b : Value) : Except Fault Bool :=
  (a.compare? b).map r.holds

/-- Whether the value lies between two bounds, ends included. The lower bound is asked first, and
the upper one only if the lower one holds. -/
def within (minimum maximum value : Value) : Except Fault Bool := do
  if ← related .atMost minimum value then related .atMost value maximum else return false

end Value

end Verdict
