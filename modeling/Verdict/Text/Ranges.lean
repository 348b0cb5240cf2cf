/-!
# Sets of characters given by ranges, and blank characters

A property of characters is written as the ascending list of the ranges of code points that have
it; `Ranges.has` decides it.

Text is measured without the blank characters around it. `strip` takes them off both ends;
`isBlank` is the property of the standard that calls a character white space, with the four
separators of the control block, and without the zero-width characters.
-/

namespace Verdict.Text

/-- Ranges of code points, both ends included, in ascending order. -/
abbrev Ranges := List (Nat × Nat)

/-- Whether one of the ranges holds the number. The search stops at the first range that begins
above it. -/
def Ranges.has : Ranges → Nat → Bool
  | [], _ => false
  | (low, high) :: rest, n => if n < low then false else n ≤ high || Ranges.has rest n

/-- The blank characters. -/
def blankRanges : Ranges := [
  (0x9, 0xD), (0x1C, 0x20), (0x85, 0x85), (0xA0, 0xA0), (0x1680, 0x1680), (0x2000, 0x200A),
  (0x2028, 0x2029), (0x202F, 0x202F), (0x205F, 0x205F), (0x3000, 0x3000)]

/-- Whether the character is blank. -/
def isBlank (c : Char) : Bool := blankRanges.has c.toNat

/-- The text without the blank characters at its front. -/
def dropBlank : List Char → List Char
  | [] => []
  | c :: rest => if isBlank c then dropBlank rest else c :: rest

/-- The characters without the blank ones at either end. -/
def stripChars (cs : List Char) : List Char :=
  (dropBlank (dropBlank cs).reverse).reverse

/-- The text without the blank characters at either end. -/
def strip (s : String) : String := String.ofList (stripChars s.toList)

end Verdict.Text
