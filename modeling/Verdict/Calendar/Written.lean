import Verdict.Calendar
import Verdict.Text.Digits

/-!
# Dates and moments in text

The international form writes year, month and day with hyphens; a moment adds a separator, the time
with colons, the microseconds when there are any, and the offset of the zone when it is known.
Inside lists a date is written as a term with its parts as arguments.
-/

namespace Verdict

open Text

/-- Year, month and day. -/
def Date.text (d : Date) : String :=
  padded 4 d.year ++ "-" ++ padded 2 d.month ++ "-" ++ padded 2 d.day

/-- Microseconds after a point, or nothing when there are none. -/
def fractionText (micro : Nat) : String :=
  if micro = 0 then "" else "." ++ padded 6 micro

/-- Hours, minutes and seconds, with a fraction when there is one. -/
def DayTime.text (t : DayTime) : String :=
  padded 2 t.hour ++ ":" ++ padded 2 t.minute ++ ":" ++ padded 2 t.second ++ fractionText t.micro

/-- An offset with its sign: hours and minutes, and the seconds when they are not zero. -/
def offsetText (offset : Int) : String :=
  let micros := offset.natAbs
  let seconds := micros / 1000000
  let fraction := micros % 1000000
  let head := (if offset < 0 then "-" else "+") ++ padded 2 (seconds / 3600) ++ ":" ++
    padded 2 (seconds / 60 % 60)
  if seconds % 60 = 0 ∧ fraction = 0 then head
  else head ++ ":" ++ padded 2 (seconds % 60) ++ fractionText fraction

/-- The moment in the international form with the given separator. -/
def Moment.textWith (separator : String) (m : Moment) : String :=
  m.date.text ++ separator ++ m.time.text ++ (m.offset.map offsetText).getD ""

/-- The moment in the international form. -/
def Moment.text (m : Moment) : String := m.textWith "T"

/-- The moment as it stands in a message: day and time are set apart by a space. -/
def Moment.display (m : Moment) : String := m.textWith " "

/-- A date as a term. -/
def Date.term (d : Date) : String :=
  "datetime.date(" ++ decimal d.year ++ ", " ++ decimal d.month ++ ", " ++ decimal d.day ++ ")"

/-- A length of time as a term: whole days, which carry the sign, then the parts of a day that are
not zero. -/
def durationTerm (micros : Int) : String :=
  let days := micros.fdiv 86400000000
  let rest := micros.fmod 86400000000
  let parts := [("days", days), ("seconds", rest / 1000000), ("microseconds", rest % 1000000)]
  let shown := (parts.filter fun p => p.2 ≠ 0).map fun p => p.1 ++ "=" ++ decimal p.2
  "datetime.timedelta(" ++ (if shown.isEmpty then "0" else ", ".intercalate shown) ++ ")"

/-- A zone among the arguments of a moment, behind the mark of the later pass. -/
def Zone.arguments : Zone → List String
  | fixed offset =>
    ["tzinfo=" ++ (if offset = 0 then "datetime.timezone.utc"
      else "datetime.timezone(" ++ durationTerm offset ++ ")")]
  | region place _ _ later => (if later then ["fold=1"] else []) ++ ["tzinfo=" ++ place.term]

/-- A moment as a term: hour and minute always, seconds and microseconds only as far as they are
needed. -/
def Moment.term (m : Moment) : String :=
  let t := m.time
  let parts := [(m.date.year : Int), m.date.month, m.date.day, t.hour, t.minute] ++
    (if t.micro ≠ 0 then [(t.second : Int), (t.micro : Int)]
     else if t.second ≠ 0 then [(t.second : Int)] else [])
  let zone := (m.zone.map Zone.arguments).getD []
  "datetime.datetime(" ++ ", ".intercalate (parts.map decimal ++ zone) ++ ")"

/-- The number that a fixed count of digits at the front writes, and what follows them. -/
def takeNumber? (count : Nat) (cs : List Char) : Option (Nat × List Char) :=
  let ds := cs.take count
  if ds.length = count && ds.all isDecimalDigit then some (readDigits 10 0 ds, cs.drop count)
  else none

/-- The characters after an expected one. -/
def expect? (c : Char) : List Char → Option (List Char)
  | [] => none
  | d :: rest => if c == d then some rest else none

/-- A two-digit part of a date or a time: after its separator in the spaced form, at once in the
compact form. -/
def readPart? (spaced : Bool) (separator : Char) (cs : List Char) : Option (Nat × List Char) :=
  if spaced then (expect? separator cs).bind (takeNumber? 2) else takeNumber? 2 cs

/-- A date at the front of the characters, and what follows it. -/
def Date.read? (cs : List Char) : Option (Date × List Char) := do
  let (year, cs) ← takeNumber? 4 cs
  let spaced := cs.head? == some '-'
  let (month, cs) ← readPart? spaced '-' cs
  let (day, cs) ← readPart? spaced '-' cs
  return (⟨year, month, day⟩, cs)

/-- Microseconds from the first six digits behind the point. -/
def microsOf (ds : List Char) : Nat := readDigits 10 0 ((ds ++ List.replicate 6 '0').take 6)

/-- Microseconds after a point or a comma, if there is one. -/
def readFraction? : List Char → Option (Nat × List Char)
  | [] => some (0, [])
  | c :: rest =>
    if c == '.' || c == ',' then
      let ds := rest.takeWhile isDecimalDigit
      if ds.isEmpty then none else some (microsOf ds, rest.dropWhile isDecimalDigit)
    else some (0, c :: rest)

/-- A time of day at the front of the characters, and what follows it. Parts may be missing from
the end. -/
def DayTime.read? (cs : List Char) : Option (DayTime × List Char) := do
  let (hour, cs) ← takeNumber? 2 cs
  let spaced := cs.head? == some ':'
  match readPart? spaced ':' cs with
  | none => return (⟨hour, 0, 0, 0⟩, cs)
  | some (minute, cs) =>
    match readPart? spaced ':' cs with
    | none => return (⟨hour, minute, 0, 0⟩, cs)
    | some (second, cs) =>
      let (micro, cs) ← readFraction? cs
      return (⟨hour, minute, second, micro⟩, cs)

/-- The offset that fills the characters, or none when there are no more. -/
def readOffset? : List Char → Option (Option Int)
  | [] => some none
  | ['Z'] => some (some 0)
  | c :: rest =>
    if c == '+' || c == '-' then
      match DayTime.read? rest with
      | some (t, []) => some (some (if c == '-' then -(t.micros : Int) else t.micros))
      | _ => none
    else none

/-- The date that the text writes. -/
def Date.ofText? (s : String) : Option Date :=
  match Date.read? s.toList with
  | some (d, []) => some d
  | _ => none

/-- The moment that the text writes. -/
def Moment.ofText? (s : String) : Option Moment := do
  let (date, cs) ← Date.read? s.toList
  let (time, cs) ← DayTime.read? (cs.drop 1)
  let offset ← readOffset? cs
  return ⟨date, time, offset.map .fixed⟩

end Verdict
