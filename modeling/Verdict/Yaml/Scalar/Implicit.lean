import Verdict.Calendar.Written
import Verdict.Number.Written
import Verdict.Value
import Verdict.Yaml.Cursor

/-!
# Scalars that are not text

A plain scalar that is written like a number, a truth value, a date or a moment is one. A
`ScalarKind` says what a scalar is, and `ScalarKind.ofPlain` what it is written like. A number that
is written with a prefix and no digits, or with too many parts in base sixty, is a fault.
-/

namespace Verdict.Yaml

open Number Text

/-- What a scalar is. -/
inductive ScalarKind where
  | null
  | truth
  | integer
  | real
  | timestamp
  /-- The key whose value is merged into the mapping. -/
  | merge
  /-- The key of a default value. -/
  | default
  | text
  /-- Under a tag that names no kind. -/
  | unknown
deriving DecidableEq, Repr, Inhabited

/-- The spellings of nothing. -/
def nullWords : List String := ["", "~", "null", "Null", "NULL"]

/-- The spellings of true. -/
def trueWords : List String :=
  ["yes", "Yes", "YES", "true", "True", "TRUE", "on", "On", "ON"]

/-- The spellings of false. -/
def falseWords : List String :=
  ["no", "No", "NO", "false", "False", "FALSE", "off", "Off", "OFF"]

/-! ## Integers -/

/-- Whether there are characters and all are digits of the base or underscores. -/
def areDigits (base : Nat) (cs : List Char) : Bool :=
  !cs.isEmpty && cs.all fun c => isDigitOf base c || c == '_'

/-- Whether the characters are a decimal digit with digits and underscores behind it. -/
def isDecimalRun : List Char → Bool
  | [] => false
  | c :: rest => isDecimalDigit c && rest.all fun c => isDecimalDigit c || c == '_'

/-- Whether the characters are a minute or a second in base sixty. -/
def isSixtieth : List Char → Bool
  | [c] => isDecimalDigit c
  | [c, d] => '0' ≤ c && c ≤ '5' && isDecimalDigit d
  | _ => false

/-- The characters between colons. -/
def splitColons : List Char → List (List Char)
  | [] => [[]]
  | ':' :: rest => [] :: splitColons rest
  | c :: rest =>
    match splitColons rest with
    | [] => [[c]]
    | part :: parts => (c :: part) :: parts

/-- The characters without underscores. -/
def dropUnderscores (cs : List Char) : List Char := cs.filter (· != '_')

/-- The natural number of digits with underscores among them. -/
def naturalOf (base : Nat) (cs : List Char) : Nat := readDigits base 0 (dropUnderscores cs)

/-- The natural number of digits behind the prefix of a base; there has to be a digit. -/
def prefixedOf (base : Nat) (cs : List Char) : Except DocumentFault Nat :=
  if (dropUnderscores cs).isEmpty then .error (.refused (.digitsMissing base "''"))
  else .ok (naturalOf base cs)

/-- The natural number of decimal digits, of which there must not be too many. -/
def decimalOf (cs : List Char) : Except DocumentFault Nat :=
  let count := (dropUnderscores cs).length
  if digitLimit < count then .error (.refused (.digitsTooMany count)) else .ok (naturalOf 10 cs)

/-- A natural number in one of its spellings: binary, octal and hexadecimal with a prefix, decimal,
or in base sixty. -/
def magnitudeOf? : List Char → Option (Except DocumentFault Nat)
  | [] => none
  | '0' :: rest =>
    match rest with
    | [] => some (.ok 0)
    | 'b' :: ds => if areDigits 2 ds then some (prefixedOf 2 ds) else none
    | 'x' :: ds => if areDigits 16 ds then some (prefixedOf 16 ds) else none
    | _ => if areDigits 8 rest then some (.ok (naturalOf 8 rest)) else none
  | cs =>
    match splitColons cs with
    | [] => none
    | first :: parts =>
      if isDecimalRun first && parts.all isSixtieth then
        some ((decimalOf first).map fun n =>
          parts.foldl (fun n part => n * 60 + naturalOf 10 part) n)
      else none

/-- An integer in one of its spellings. -/
def integerOf? (cs : List Char) : Option (Except DocumentFault Int) :=
  let (negative, cs) := splitSign cs
  (magnitudeOf? cs).map fun n => n.map fun n => if negative then -(n : Int) else n

/-! ## Numbers with a point -/

/-- Whether the characters are an exponent, whose sign is not optional, or nothing. -/
def isExponent : List Char → Bool
  | [] => true
  | e :: s :: ds => (e == 'e' || e == 'E') && (s == '+' || s == '-') && !ds.isEmpty &&
      ds.all isDecimalDigit
  | _ => false

/-- Whether the characters are digits and underscores and then perhaps an exponent. -/
def isFraction (cs : List Char) : Bool :=
  isExponent (cs.dropWhile fun c => isDecimalDigit c || c == '_')

/-- The sum so far with parts in base sixty, of which the first has a weight and every further one
sixty times that. The weights must not be too large. -/
def sexagesimalSum? (weight : Nat) (sum : Binary64) : List Binary64 → Option Binary64
  | [] => some sum
  | part :: rest =>
    (part.scale? weight).bind fun x => sexagesimalSum? (weight * 60) (sum.add x) rest

/-- A number in base sixty whose last part has a fraction: the parts are added from the last to the
first. One with too many parts is refused. -/
def sexagesimalOf? (negative : Bool) (cs : List Char) : Option (Except DocumentFault Binary64) :=
  match (splitColons cs).reverse with
  | [] => none
  | last :: others =>
    let whole := last.takeWhile (· != '.')
    let places := (last.dropWhile (· != '.')).drop 1
    let areParts := match others.reverse with
      | [] => false
      | first :: middle => isDecimalRun first && (middle ++ [whole]).all isSixtieth
    if areParts && last.contains '.' && places.all (fun c => isDecimalDigit c || c == '_') then
      let parts := (last :: others).map fun part =>
        (readMagnitude? false (dropUnderscores part)).getD .zero
      match sexagesimalSum? 1 .zero parts with
      | some sum => some (.ok (if negative then sum.negate else sum))
      | none => some (.error (.refused .overflow))
    else none

/-- A number with a point in one of its spellings. -/
def realOf? (cs : List Char) : Option (Except DocumentFault Binary64) :=
  let (negative, unsigned) := splitSign cs
  match unsigned with
  | '.' :: rest =>
    if ["inf", "Inf", "INF"].any (·.toList == rest) then some (.ok (.infinite negative))
    else if unsigned.length ≠ cs.length then none
    else if ["nan", "NaN", "NAN"].any (·.toList == rest) then some (.ok .nan)
    else if rest.head?.any isDecimalDigit && isFraction rest then
      (readMagnitude? false (dropUnderscores cs)).map .ok
    else none
  | _ =>
    let whole := unsigned.takeWhile (· != '.')
    if isDecimalRun whole then
      match unsigned.dropWhile (· != '.') with
      | '.' :: rest =>
        if isFraction rest then (readMagnitude? negative (dropUnderscores unsigned)).map .ok
        else none
      | _ => none
    else sexagesimalOf? negative unsigned

/-! ## Timestamps -/

/-- One or two digits at the front of the characters, and what follows them. -/
def takeShort? (cs : List Char) : Option (Nat × List Char) :=
  (takeNumber? 2 cs).or (takeNumber? 1 cs)

/-- The offset of a zone at the end, in microseconds: nothing, the letter, or a signed time. Its
sign and size are kept apart from whether there is one. -/
def zoneOf? (cs : List Char) : Option (Option Int) :=
  match cs.dropWhile isBlank with
  | [] => if cs.isEmpty then some none else none
  | ['Z'] => some (some 0)
  | c :: rest =>
    if c == '+' || c == '-' then do
      let (hours, rest) ← takeShort? rest
      let minutes ← match rest with
        | [] => some 0
        | ':' :: rest => do
          let (minutes, rest) ← takeNumber? 2 rest
          if rest.isEmpty then some minutes else none
        | _ => none
      let offset : Int := (hours * 60 + minutes) * 60000000
      return some (if c == '-' then -offset else offset)
    else none

/-- The time of day and the zone that fill the characters. -/
def clockOf? (cs : List Char) : Option (DayTime × Option Int) := do
  let (hour, cs) ← takeShort? cs
  let cs ← expect? ':' cs
  let (minute, cs) ← takeNumber? 2 cs
  let cs ← expect? ':' cs
  let (second, cs) ← takeNumber? 2 cs
  let (fraction, cs) := match cs with
    | '.' :: rest => (rest.takeWhile isDecimalDigit, rest.dropWhile isDecimalDigit)
    | _ => ([], cs)
  let zone ← zoneOf? cs
  return (⟨hour, minute, second, microsOf fraction⟩, zone)

/-- A date, perhaps with a time of day and a zone. -/
def stampOf? (cs : List Char) : Option (Date × Option (DayTime × Option Int)) := do
  let (year, rest) ← takeNumber? 4 cs
  let rest ← expect? '-' rest
  let (month, rest) ← takeShort? rest
  let rest ← expect? '-' rest
  let (day, rest) ← takeShort? rest
  let date : Date := ⟨year, month, day⟩
  match rest with
  | [] => some (date, none)
  | c :: after =>
    if c == 'T' || c == 't' then (clockOf? after).map fun clock => (date, some clock)
    else if isBlank c then
      (clockOf? (after.dropWhile isBlank)).map fun clock => (date, some clock)
    else none

/-- A plain date or moment. A date alone has two digits for month and day. -/
def timestampOf? (cs : List Char) : Option (Date × Option (DayTime × Option Int)) :=
  (stampOf? cs).filter fun parts => parts.2.isSome || cs.length = 10

/-! ## Kinds -/

namespace ScalarKind

/-- What a plain scalar is written like. -/
def ofPlain (text : String) : ScalarKind :=
  let cs := text.toList
  if trueWords.contains text || falseWords.contains text then truth
  else if (realOf? cs).isSome then real
  else if (integerOf? cs).isSome then integer
  else if text == "<<" then merge
  else if nullWords.contains text then null
  else if (timestampOf? cs).isSome then timestamp
  else if text == "=" then default
  else .text

end ScalarKind

end Verdict.Yaml
