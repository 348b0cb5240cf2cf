import Verdict.Result

/-!
# Forests of results

Results live next to each other and may be layered over earlier ones. A parent may go on growing
after a scope was laid over it, and the scope sees that. A `Forest` keeps the ledgers, latest
first, each with the number of its parent if it has one; a parent is always earlier. `Forest.view`
gives the result with a number as it is now.
-/

namespace Verdict

/-- A ledger in a forest, with the number of the result it is layered over. -/
structure Layer where
  parent : Option Nat
  own : Ledger
deriving Inhabited

/-- Ledgers, latest first; the number of a result is the number of the ledgers before it. -/
abbrev Forest := List Layer

namespace Forest

/-- The result with the number, as it is now. -/
def view : Forest → Nat → Option Result
  | [], _ => none
  | layer :: earlier, i =>
    if i = earlier.length then
      match layer.parent with
      | none => some (.plain layer.own)
      | some p => (view earlier p).map fun r => .layered r layer.own
    else view earlier i

/-- The forest with another ledger for the result with the number. -/
def setOwn (i : Nat) (own : Ledger) : Forest → Forest
  | [] => []
  | layer :: earlier =>
    if i = earlier.length then { layer with own := own } :: earlier
    else layer :: setOwn i own earlier

/-- The forest with one more result, and its number. -/
def push (f : Forest) (parent : Option Nat) : Forest × Nat := (⟨parent, .empty⟩ :: f, f.length)

/-- The forest after a failure is added to the result with the number. -/
def add (f : Forest) (i : Nat) (x : Failure) : Forest :=
  match f.view i with
  | some r => f.setOwn i (r.add x).own
  | none => f

/-- The forest after a failure of the result with the number is replaced. -/
def replace (f : Forest) (i : Nat) (index : Int) (x : Failure) : Except Fault Forest :=
  match f.view i with
  | some r => (r.replace index x).map fun r => f.setOwn i r.own
  | none => .ok f

end Forest

end Verdict
