import Verdict.Number.Shortest
import Verdict.Text.Digits

/-!
# Floating-point numbers in text

`Binary64.text` writes the fewest digits that read back, in positions for moderate exponents and
with a power of ten otherwise; the decisions of the format are the one record `NumberStyle.plain`.
`Binary64.ofText?` reads decimal text to the nearest number.
-/

namespace Verdict.Number

open Verdict.Text

/-- The decisions of a number format. -/
structure NumberStyle where
  /-- The lowest exponent that is written in positions. -/
  minExponent : Int
  /-- The highest exponent that is written in positions. -/
  maxExponent : Int
  /-- What a whole number ends with. -/
  wholeEnd : String
  /-- The least number of digits of an exponent. -/
  exponentWidth : Nat
  /-- The text of the undefined number. -/
  undefinedText : String
  /-- The text of the infinite number. -/
  infiniteText : String

/-- Exponents from -4 to 15 are written in positions, whole numbers end with a point and a zero,
and an exponent has a sign and at least two digits. -/
def NumberStyle.plain : NumberStyle := ⟨-4, 15, ".0", 2, "nan", "inf"⟩

/-- The digits without the zeros at their end. -/
def trimZeros (cs : List Char) : List Char :=
  (cs.reverse.dropWhile (· == '0')).reverse

/-- Digits written with the point where the exponent of the first digit puts it. -/
def positional (style : NumberStyle) (cs : List Char) (exponent : Int) : String :=
  if exponent < 0 then
    "0." ++ String.ofList (List.replicate (exponent.natAbs - 1) '0' ++ cs)
  else
    let whole := exponent.toNat + 1
    if cs.length ≤ whole then
      String.ofList (cs ++ List.replicate (whole - cs.length) '0') ++ style.wholeEnd
    else String.ofList (cs.take whole) ++ "." ++ String.ofList (cs.drop whole)

/-- Digits written with a power of ten. -/
def scientific (style : NumberStyle) (cs : List Char) (exponent : Int) : String :=
  let mantissa := match cs with
    | [] => ""
    | [c] => String.ofList [c]
    | c :: rest => String.ofList (c :: '.' :: rest)
  let sign := if exponent < 0 then "-" else "+"
  mantissa ++ "e" ++ sign ++ padded style.exponentWidth exponent.natAbs

/-- The text of a magnitude. -/
def magnitudeText (style : NumberStyle) (units : Nat) : String :=
  if units = 0 then "0" ++ style.wholeEnd
  else
    let d := shortest units
    let all := Nat.toDigits 10 d.digits
    let exponent := d.exponent + all.length - 1
    let cs := trimZeros all
    if style.minExponent ≤ exponent && exponent ≤ style.maxExponent
    then positional style cs exponent
    else scientific style cs exponent

/-- The text of a number in a style. -/
def Binary64.textIn (style : NumberStyle) : Binary64 → String
  | .nan => style.undefinedText
  | .infinite negative => (if negative then "-" else "") ++ style.infiniteText
  | .finite negative units => (if negative then "-" else "") ++ magnitudeText style units

/-- The text of a number. -/
def Binary64.text (x : Binary64) : String := x.textIn NumberStyle.plain

/-- The number nearest to digits times a power of ten. Exponents that leave the range of the format
whatever the digits are decided without the power. -/
def ofScientific (negative : Bool) (digits : Nat) (exponent : Int) : Binary64 :=
  let size := (Nat.toDigits 10 digits).length
  if digits = 0 then .finite negative 0
  else if exponent + size > 400 then .infinite negative
  else if exponent + size < -400 then .finite negative 0
  else if exponent < 0 then Binary64.ofFraction negative digits (Nat.pow 10 exponent.natAbs)
  else Binary64.ofFraction negative (digits * Nat.pow 10 exponent.natAbs) 1

/-- The sign in front of the characters, and the characters after it. -/
def splitSign : List Char → Bool × List Char
  | '-' :: rest => (true, rest)
  | '+' :: rest => (false, rest)
  | cs => (false, cs)

/-- The exponent that follows the digits: nothing, or the letter with an optionally signed
number. -/
def readExponent? : List Char → Option Int
  | [] => some 0
  | c :: rest =>
    if c == 'e' || c == 'E' then
      let (negative, ds) := splitSign rest
      if ds.isEmpty || !ds.all isDecimalDigit then none
      else
        let n : Int := readDigits 10 0 ds
        some (if negative then -n else n)
    else none

/-- An unsigned decimal: digits with at most one point among them, and perhaps an exponent. -/
def readMagnitude? (negative : Bool) (cs : List Char) : Option Binary64 :=
  let whole := cs.takeWhile isDecimalDigit
  let rest := cs.dropWhile isDecimalDigit
  let (places, tail) := match rest with
    | '.' :: after => (after.takeWhile isDecimalDigit, after.dropWhile isDecimalDigit)
    | _ => ([], rest)
  if whole.isEmpty && places.isEmpty then none
  else (readExponent? tail).map fun e =>
    ofScientific negative (readDigits 10 0 (whole ++ places)) (e - places.length)

/-- The number that the text writes. The words for the numbers that have no digits may be written
in letters of either case. -/
def Binary64.ofText? (s : String) : Option Binary64 :=
  let (negative, cs) := splitSign s.toList
  let word := String.ofList (cs.map Char.toLower)
  if word = "nan" then some .nan
  else if word = "inf" || word = "infinity" then some (.infinite negative)
  else readMagnitude? negative cs

end Verdict.Number
