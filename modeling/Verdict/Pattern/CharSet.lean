import Verdict.Text.Ranges
import Verdict.Text.Casing
import Verdict.Text.Word

/-!
# Sets of characters in patterns

A pattern asks whether a character is one of a set of characters, ranges and classes. When case is
ignored, the small form of the character is looked for among the small forms of the set; letters
with the same capital count as one.
-/

namespace Verdict.Pattern

open Text

/-- The options under which a part of a pattern is read and matched. -/
structure Options where
  ignoreCase : Bool := false
  /-- Line starts and ends count as ends of the text. -/
  multiline : Bool := false
  /-- The point stands for line ends too. -/
  dotAll : Bool := false
  /-- Classes and case are those of the first 128 characters only. -/
  ascii : Bool := false
  /-- All characters were asked for by name. -/
  wide : Bool := false
  /-- Blanks and comments in the pattern are skipped. -/
  verbose : Bool := false
deriving DecidableEq, Repr, Inhabited

/-- The classes of characters. -/
inductive CharClass where
  | digit
  | space
  | word
deriving DecidableEq, Repr, Inhabited

/-- One item of a set. -/
inductive SetItem where
  | one (point : Nat)
  | range (low high : Nat)
  | cls (c : CharClass) (negated : Bool)
deriving DecidableEq, Repr, Inhabited

/-- A set of characters. -/
structure CharSet where
  negated : Bool
  items : List SetItem
deriving DecidableEq, Repr, Inhabited

/-- Whether the number is that of a small letter, a capital or a digit of the first 128. -/
def isAsciiWord (n : Nat) : Bool :=
  (48 ≤ n && n ≤ 57) || (65 ≤ n && n ≤ 90) || (97 ≤ n && n ≤ 122) || n == 95

/-- Whether the code point is in the class. -/
def CharClass.has (ascii : Bool) : CharClass → Nat → Bool
  | .digit, n => if ascii then 48 ≤ n && n ≤ 57 else digitRanges.has n
  | .space, n => if ascii then n == 32 || (9 ≤ n && n ≤ 13) else blankRanges.has n
  | .word, n => if ascii then isAsciiWord n else wordRanges.has n

/-- The small form of a code point under the options. -/
def Options.lower (o : Options) (n : Nat) : Nat :=
  if o.ascii then (if 65 ≤ n && n ≤ 90 then n + 32 else n) else lowerPoint n

/-- Whether case matters for the code point under the options. -/
def Options.cased (o : Options) (n : Nat) : Bool :=
  if o.ascii then (65 ≤ n && n ≤ 90) || (97 ≤ n && n ≤ 122) else isCased n

/-- The small letters that count as the given small letter. -/
def Options.companions (o : Options) (n : Nat) : List Nat :=
  if o.ascii then [n] else n :: companionsOf n

/-- Whether the small form of some code point of the range counts as the given small letter. -/
def Options.rangeHas (o : Options) (low high small : Nat) : Bool :=
  (o.companions small).any fun n =>
    (low ≤ n && n ≤ high && o.lower n == n) ||
      if o.ascii then 97 ≤ n && n ≤ 122 && low ≤ n - 32 && n - 32 ≤ high
      else (sourcesOf lowerRuns n).any fun m => low ≤ m && m ≤ high

/-- Whether case matters for some code point of the range. Ranges beyond the first plane always
count as such. -/
def Options.rangeCased (o : Options) (low high : Nat) : Bool :=
  if o.ascii then (low ≤ 90 && 65 ≤ high) || (low ≤ 122 && 97 ≤ high)
  else high > 0xFFFF || casedRanges.any fun r => low ≤ r.2 && r.1 ≤ high

/-- Whether case matters for the item. -/
def SetItem.cased (o : Options) : SetItem → Bool
  | .one n => o.cased n
  | .range low high => o.rangeCased low high
  | .cls _ _ => false

/-- Whether the item has the code point as it is. -/
def SetItem.has (o : Options) (n : Nat) : SetItem → Bool
  | .one m => n == m
  | .range low high => low ≤ n && n ≤ high
  | .cls c negated => c.has o.ascii n != negated

/-- Whether the item has the small letter when case is ignored. -/
def SetItem.hasSmall (o : Options) (small : Nat) : SetItem → Bool
  | .one m => (o.companions (o.lower m)).contains small
  | .range low high => o.rangeHas low high small
  | .cls c negated => c.has o.ascii small != negated

/-- Whether the set has the character. -/
def CharSet.has (o : Options) (s : CharSet) (c : Char) : Bool :=
  let n := c.toNat
  let found :=
    if o.ignoreCase && s.items.any (·.cased o) then s.items.any (·.hasSmall o (o.lower n))
    else s.items.any (·.has o n)
  found != s.negated

end Verdict.Pattern
