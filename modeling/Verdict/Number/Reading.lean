import Verdict.Number.Written
import Verdict.Text.Ranges
import Verdict.Text.Word

/-!
# Numbers read from text

A number is read in a wide sense: with blank characters around it, with a sign, and with digits of
any script. `readInteger?` reads a whole number in a base, and `readReal?` one in floating point.
-/

namespace Verdict.Number

open Verdict.Text

/-- Whether the character may stand around a number. The separators of the control block may not. -/
def isMargin (c : Char) : Bool := isBlank c && !(0x1C ≤ c.toNat && c.toNat ≤ 0x1F)

/-- The characters without what stands around a number, and with the digits 0 to 9 for those of
other scripts. -/
def numeral (cs : List Char) : List Char :=
  let behind := (cs.dropWhile isMargin).reverse
  (behind.dropWhile isMargin).reverse.map plainDigit

/-- The letter of the prefix that the digits of a base may have. -/
def prefixLetter? (base : Nat) : Option Char := [(2, 'b'), (8, 'o'), (16, 'x')].lookup base

/-- The characters without the prefix of the base. -/
def dropPrefix (base : Nat) : List Char → List Char
  | '0' :: c :: rest => if prefixLetter? base = some c.toLower then rest else '0' :: c :: rest
  | cs => cs

/-- The whole number that the characters write in the base. -/
def readInteger? (base : Nat) (cs : List Char) : Option Int :=
  let (negative, unsigned) := splitSign (numeral cs)
  let ds := dropPrefix base unsigned
  if ds.isEmpty || !ds.all (isDigitOf base) then none
  else
    let n : Int := readDigits base 0 ds
    some (if negative then -n else n)

/-- The number that the characters write in decimal or by name. -/
def readReal? (cs : List Char) : Option Binary64 := Binary64.ofText? (String.ofList (numeral cs))

end Verdict.Number
