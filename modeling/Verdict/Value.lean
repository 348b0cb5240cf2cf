import Verdict.Calendar
import Verdict.Number.Binary64

/-!
# Values under validation

A `Value` is anything that a rule can be asked about: nothing, a truth value, a number, text, a
list, a tuple, a mapping, a date or a moment.

`Value.equals` compares by meaning. Truth values and numbers are compared by their place on the
number line, whatever their kind; sequences part by part and only with their own kind; mappings as
sets of entries; moments only with or without a zone on both sides. The undefined number equals
nothing.
-/

namespace Verdict

open Number

/-- A value under validation. -/
inductive Value where
  | null
  | bool (b : Bool)
  | int (i : Int)
  | float (x : Binary64)
  | text (s : String)
  | list (items : List Value)
  | tuple (items : List Value)
  | mapping (entries : List (Value × Value))
  | date (d : Date)
  | moment (m : Moment)
deriving Inhabited

namespace Value

/-- The integer that a truth value counts as. -/
def ofTruth (b : Bool) : Int := if b then 1 else 0

/-- The place on the number line of a truth value or a number; the undefined number and all other
values have none. -/
def place? : Value → Option Place
  | .bool b => some (.ofInt (ofTruth b))
  | .int i => some (.ofInt i)
  | .float x => x.place?
  | _ => none

/-- Whether both places are known and the same. -/
def samePlace : Option Place → Option Place → Bool
  | some p, some q => p == q
  | _, _ => false

/-- Whether the value is nothing. -/
def isNull : Value → Bool
  | .null => true
  | _ => false

mutual

/-- Whether two values mean the same. -/
def equals : Value → Value → Bool
  | .null, b => b.isNull
  | .bool x, b => samePlace (Value.bool x).place? b.place?
  | .int i, b => samePlace (Value.int i).place? b.place?
  | .float x, b => samePlace (Value.float x).place? b.place?
  | .text s, .text t => s == t
  | .list xs, .list ys => equalsEach xs ys
  | .tuple xs, .tuple ys => equalsEach xs ys
  | .mapping xs, .mapping ys =>
    let tests := entryTests xs
    xs.length == ys.length && tests.all ys.any && ys.all fun e => tests.any fun t => t e
  | .date d, .date e => d.number == e.number
  | .moment m, .moment n => m.same n
  | _, _ => false

/-- Whether two sequences mean the same part by part. -/
def equalsEach : List Value → List Value → Bool
  | [], [] => true
  | x :: xs, y :: ys => equals x y && equalsEach xs ys
  | _, _ => false

/-- For each entry the test for an entry that means the same. -/
def entryTests : List (Value × Value) → List (Value × Value → Bool)
  | [] => []
  | (k, v) :: rest => (fun e => equals k e.1 && equals v e.2) :: entryTests rest

end

/-- Whether one of the values means the same as the given one. -/
def among (v : Value) (items : List Value) : Bool := items.any fun item => v.equals item

/-- The value of the first entry whose key means the same as the given one. -/
def lookup? (key : Value) : List (Value × Value) → Option Value
  | [] => none
  | (k, v) :: rest => if k.equals key then some v else lookup? key rest

/-- The entries after a write: an entry with that key keeps its place and its key and takes the
value; a new key goes to the end. -/
def insert (key value : Value) : List (Value × Value) → List (Value × Value)
  | [] => [(key, value)]
  | (k, v) :: rest =>
    if k.equals key then (k, value) :: rest else (k, v) :: insert key value rest

/-- A mapping from entries that are written one after the other. -/
def ofEntries (entries : List (Value × Value)) : Value :=
  .mapping (entries.foldl (fun written e => insert e.1 e.2 written) [])

/-- Whether the value counts as true: nothing, zeros and what is empty do not. -/
def isTruthy : Value → Bool
  | .null => false
  | .bool b => b
  | .int i => i != 0
  | .float x => !x.isZero
  | .text s => !s.isEmpty
  | .list items => !items.isEmpty
  | .tuple items => !items.isEmpty
  | .mapping entries => !entries.isEmpty
  | .date _ => true
  | .moment _ => true

end Value

end Verdict
