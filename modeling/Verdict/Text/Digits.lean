/-!
# Numbers written in digits

`decimal` writes an integer in base ten, `padded` fills a natural number with zeros up to a width,
and `hexadecimal` does the same in base sixteen. `readDigits` reads digits of a base back.

Between integers and digits in base ten there is a limit: `isShort` says which integers keep to it.
-/

namespace Verdict.Text

/-- An integer in base ten, with a minus sign in front when it is negative. -/
def decimal : Int → String
  | .ofNat n => Nat.repr n
  | .negSucc n => "-" ++ Nat.repr (n + 1)

/-- The greatest number of digits in base ten that an integer is written in or read from. -/
def digitLimit : Nat := 4300

/-- Whether the integer has no more digits in base ten than the limit allows. -/
def isShort (i : Int) : Bool := i.natAbs < Nat.pow 10 digitLimit

/-- Zeros in front of the characters until they are as many as the width asks for. -/
def padLeft (width : Nat) (cs : List Char) : List Char :=
  List.replicate (width - cs.length) '0' ++ cs

/-- A natural number in base ten, filled with zeros up to the width. -/
def padded (width n : Nat) : String := String.ofList (padLeft width (Nat.toDigits 10 n))

/-- A natural number in base sixteen with small letters, filled with zeros up to the width. -/
def hexadecimal (width n : Nat) : List Char := padLeft width (Nat.toDigits 16 n)

/-- The value of a digit in bases up to sixteen. -/
def digitValue? (c : Char) : Option Nat :=
  let n := c.toNat
  if 48 ≤ n && n ≤ 57 then some (n - 48)
  else if 97 ≤ n && n ≤ 102 then some (n - 87)
  else if 65 ≤ n && n ≤ 70 then some (n - 55)
  else none

/-- Whether the character is a digit of the base. -/
def isDigitOf (base : Nat) (c : Char) : Bool :=
  match digitValue? c with
  | some v => v < base
  | none => false

/-- The number that the digits write after the number read so far. -/
def readDigits (base : Nat) : Nat → List Char → Nat
  | value, [] => value
  | value, c :: rest => readDigits base (value * base + (digitValue? c).getD 0) rest

/-- Whether the character is one of the ten digits 0 to 9. -/
def isDecimalDigit (c : Char) : Bool := isDigitOf 10 c

end Verdict.Text
