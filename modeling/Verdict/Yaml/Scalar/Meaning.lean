import Verdict.Number.Reading
import Verdict.Text.Casing
import Verdict.Text.Quoted
import Verdict.Yaml.Scalar.Implicit

/-!
# What scalars mean

A scalar that is written like its kind means just that, if there is such a thing: dates, times of
day and offsets of zones are checked. A tag can make a scalar one of a kind that it is not written
like. What can be read in a wide sense is taken for it then, and anything else is a fault.
-/

namespace Verdict.Yaml

open Number Text

/-! ## Truth values -/

/-- The truth value that is spelled in letters of either case. -/
def truthOf (text : String) : Except Fault Bool :=
  let word := String.ofList (text.toList.map Char.toLower)
  if trueWords.contains word then .ok true
  else if falseWords.contains word then .ok false
  else .error .missingKey

/-! ## Integers -/

/-- The whole number that the characters write. There must not be too many decimal digits. A fault
cites the beginning of what is no number. -/
def wholeOf (base : Nat) (cs : List Char) : Except Fault Int :=
  match readInteger? base cs with
  | some i =>
    let count := (splitSign (numeral cs)).2.length
    if base = 10 && digitLimit < count then .error (.digitsTooMany count) else .ok i
  | none => .error (.digitsMissing base (String.ofList ((quoteChars cs).take 200)))

/-- A whole number behind its sign. Its first characters say how to read it. -/
def unsignedOf : List Char → Except Fault Int
  | [] => .error .emptyText
  | '0' :: rest =>
    match rest with
    | 'b' :: ds => wholeOf 2 ds
    | 'x' :: ds => wholeOf 16 ds
    | _ => wholeOf 8 ('0' :: rest)
  | cs =>
    if cs.contains ':' then
      ((splitColons cs).mapM (wholeOf 10)).map (·.foldl (fun n part => n * 60 + part) 0)
    else wholeOf 10 cs

/-- A whole number in a wide sense. -/
def wideInteger (text : String) : Except Fault Int :=
  let (negative, cs) := splitSign (dropUnderscores text.toList)
  (unsignedOf cs).map fun n => if negative then -n else n

/-! ## Numbers with a point -/

/-- The number that the characters write. A fault cites them in small letters. -/
def pointOf (cs : List Char) : Except Fault Binary64 :=
  match readReal? cs with
  | some x => .ok x
  | none => .error (.realUnreadable (quoted (lowered (String.ofList cs))))

/-- The sum of parts in base sixty, which are added from the last to the first. -/
def sumOf (parts : List Binary64) : Except Fault Binary64 :=
  match sexagesimalSum? 1 .zero parts.reverse with
  | some sum => .ok sum
  | none => .error .overflow

/-- A number with a point behind its sign. -/
def unsignedReal (cs : List Char) : Except Fault Binary64 :=
  let word := String.ofList (cs.map Char.toLower)
  if word = ".inf" then .ok (.infinite false)
  else if word = ".nan" then .ok .nan
  else if cs.contains ':' then ((splitColons cs).mapM pointOf).bind sumOf
  else pointOf cs

/-- A number with a point in a wide sense. -/
def wideReal (text : String) : Except Fault Binary64 :=
  let cs := dropUnderscores text.toList
  if cs.isEmpty then .error .emptyText
  else
    let (negative, unsigned) := splitSign cs
    (unsignedReal unsigned).map fun x => if negative then x.negate else x

/-! ## Timestamps -/

/-- A date or moment in a wide sense: one line end may follow it. -/
def wideStamp? (cs : List Char) : Option (Date × Option (DayTime × Option Int)) :=
  (stampOf? cs).or (if cs.getLast? = some '\n' then stampOf? cs.dropLast else none)

/-- The date, if it exists. -/
def checkedDate (d : Date) : Except Fault Date :=
  if d.year = 0 then .error (.yearOutOfRange 0)
  else if d.month = 0 || d.month > 12 then .error .monthOutOfRange
  else if d.day = 0 || d.day > daysInMonth d.year d.month then .error .dayOutOfRange
  else .ok d

/-- The time of day, if it exists. -/
def checkedTime (t : DayTime) : Except Fault DayTime :=
  if t.hour > 23 then .error .hourOutOfRange
  else if t.minute > 59 then .error .minuteOutOfRange
  else if t.second > 59 then .error .secondOutOfRange
  else .ok t

/-- The offset of a zone, if it is shorter than a day. -/
def checkedOffset (offset : Option Int) : Except Fault (Option Int) :=
  match offset with
  | some micros =>
    if micros.natAbs ≥ 86400000000 then .error (.offsetOutOfRange (durationTerm micros))
    else .ok offset
  | none => .ok none

/-- The date or moment, if it exists. -/
def checkedTimestamp : Date × Option (DayTime × Option Int) → Except Fault Value
  | (date, none) => (checkedDate date).map .date
  | (date, some (time, offset)) => do
    let offset ← checkedOffset offset
    return .moment ⟨← checkedDate date, ← checkedTime time, offset.map .fixed⟩

/-- The date or moment that is written, in a wide sense. -/
def momentOf (text : String) : Except Fault Value :=
  match wideStamp? text.toList with
  | some parts => checkedTimestamp parts
  | none => .error .missingMember

/-! ## Values -/

section Refusing

variable {α : Type} {change : α → Value} {x : Except Fault α}

/-- The value of what is read. The document is refused for a fault in reading it. -/
def refusing (change : α → Value) (x : Except Fault α) : Except DocumentFault Value :=
  match x with
  | .ok a => .ok (change a)
  | .error fault => .error (.refused fault)

theorem exists_of_refusing_eq_ok {v : Value} (h : refusing change x = .ok v) :
    ∃ a, x = .ok a ∧ change a = v := by
  cases x with
  | error fault => cases h
  | ok a => exact ⟨a, rfl, Except.ok.inj h⟩

end Refusing

/-- What a scalar of a kind means. The special keys have no meaning of their own. -/
def ScalarKind.value (kind : ScalarKind) (text : String) : Except DocumentFault Value :=
  match kind with
  | .null => .ok .null
  | .truth => refusing .bool (truthOf text)
  | .integer =>
    match integerOf? text.toList with
    | some n => n.map .int
    | none => refusing .int (wideInteger text)
  | .real =>
    match realOf? text.toList with
    | some x => x.map .float
    | none => refusing .float (wideReal text)
  | .timestamp => refusing id (momentOf text)
  | .merge | .default | .unknown => .error .malformed
  | .text => .ok (.text text)

end Verdict.Yaml
