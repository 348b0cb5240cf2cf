import Verdict.Value.Order

/-!
# What values hold

Text, lists, tuples and mappings have a size and can be gone through part by part; a mapping stands
for its keys. Numbers have a remainder. An operation asked of a value that lacks it is a fault.
-/

namespace Verdict

open Number

/-- Whether the first characters stand one after the other somewhere in the second. -/
def occursIn (part : List Char) : List Char → Bool
  | [] => part.isEmpty
  | c :: rest => part.isPrefixOf (c :: rest) || occursIn part rest

namespace Value

/-- The number of parts. -/
def size? : Value → Except Fault Nat
  | .text s => .ok s.toList.length
  | .list items => .ok items.length
  | .tuple items => .ok items.length
  | .mapping entries => .ok entries.length
  | _ => .error .unsupported

/-- The parts one after the other: the characters of a text, the keys of a mapping. -/
def parts? : Value → Except Fault (List Value)
  | .text s => .ok (s.toList.map fun c => .text (String.ofList [c]))
  | .list items => .ok items
  | .tuple items => .ok items
  | .mapping entries => .ok (entries.map (·.1))
  | _ => .error .unsupported

mutual

/-- Whether the value may be a key: lists and mappings may not, nor what holds one. -/
def isKey : Value → Bool
  | .list _ => false
  | .mapping _ => false
  | .tuple items => areKeys items
  | _ => true

/-- Whether all the values may be keys. -/
def areKeys : List Value → Bool
  | [] => true
  | v :: rest => isKey v && areKeys rest

end

/-- Whether the value holds the part: a text holds the texts that occur in it, a sequence its
parts, a mapping its keys. -/
def holds? (value part : Value) : Except Fault Bool :=
  match value with
  | .text s =>
    match part with
    | .text t => .ok (occursIn t.toList s.toList)
    | _ => .error .unsupported
  | .list items => .ok (part.among items)
  | .tuple items => .ok (part.among items)
  | .mapping entries =>
    if part.isKey then .ok (part.among (entries.map (·.1))) else .error .unsupported
  | _ => .error .unsupported

/-- The value under a text key. Only mappings have such keys. -/
def atKey (key : String) : Value → Except Fault Value
  | .mapping entries =>
    match lookup? (.text key) entries with
    | some value => .ok value
    | none => .error .missingKey
  | _ => .error .unsupported

/-- The text of a value that is text. -/
def asText : Value → Except Fault String
  | .text s => .ok s
  | _ => .error .missingMember

/-- The integer of a truth value or an integer. -/
def integer? : Value → Option Int
  | .bool b => some (ofTruth b)
  | .int i => some i
  | _ => none

/-- The number of a numeric value in floating point. An integer beyond the range is a fault. -/
def real? : Value → Except Fault Binary64
  | .float x => .ok x
  | v =>
    match v.integer? with
    | none => .error .unsupported
    | some i =>
      match Binary64.ofInt i with
      | .infinite _ => .error .overflow
      | x => .ok x

/-- The remainder of a division, with the sign of the divisor. Integers have an integer remainder;
a floating-point number on either side makes it one. -/
def remainder (a b : Value) : Except Fault Value :=
  match a.integer?, b.integer? with
  | some i, some j =>
    if j = 0 then .error .integerDivisionByZero else .ok (.int (i.fmod j))
  | _, _ =>
    if a.isNumeric && b.isNumeric then do
      let x ← a.real?
      let y ← b.real?
      if y.isZero then .error .realDivisionByZero else return .float (x.remainder y)
    else .error .unsupported

/-- The day of the week of a date or a moment. -/
def weekday? : Value → Except Fault Nat
  | .date d => .ok d.weekday
  | .moment m => .ok m.date.weekday
  | _ => .error .missingMember

/-- Whether the value is text. -/
def isText : Value → Bool
  | .text _ => true
  | _ => false

end Value

/-- What values can be asked to be of: a class by its name, or a union of classes, which has none.
The question may be one that cannot be asked. -/
structure ValueClass where
  name : Option String
  test : Value → Except Fault Bool
deriving Inhabited

namespace ValueClass

/-- A class with a name. -/
def named (name : String) (holds : Value → Bool) : ValueClass := ⟨some name, fun v => .ok (holds v)⟩

/-- The classes of the values themselves, nothing at the end. Truth values are integers too, and
moments are dates. -/
def builtin : List ValueClass := [
  named "int" fun
    | .int _ | .bool _ => true
    | _ => false,
  named "str" Value.isText,
  named "bool" fun
    | .bool _ => true
    | _ => false,
  named "float" fun
    | .float _ => true
    | _ => false,
  named "list" fun
    | .list _ => true
    | _ => false,
  named "dict" fun
    | .mapping _ => true
    | _ => false,
  named "tuple" fun
    | .tuple _ => true
    | _ => false,
  named "date" fun
    | .date _ | .moment _ => true
    | _ => false,
  named "datetime" fun
    | .moment _ => true
    | _ => false,
  named "object" fun _ => true,
  named "NoneType" Value.isNull]

/-- A value is of one of two classes; the second is asked only if it is not of the first. -/
def union (first second : ValueClass) : ValueClass :=
  ⟨none, fun v => do if ← first.test v then return true else second.test v⟩

end ValueClass

end Verdict
