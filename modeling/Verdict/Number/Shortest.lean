import Verdict.Number.Binary64

/-!
# The fewest digits that read back

A decimal stands for a binary number when it lies in the interval of quotients that round to it;
the ends belong to the interval when the number is even. `shortest` looks on the grids of one, two,
up to seventeen digits for the first that has a point in the interval, and takes the nearer of the
two neighbours on it.
-/

namespace Verdict.Number

/-- A decimal: its digits as a number, and the power of ten that they count. -/
structure Decimal where
  digits : Nat
  exponent : Int
deriving DecidableEq, Repr

/-- The decimal as a fraction of units: numerator and denominator. -/
def Decimal.inUnits (d : Decimal) : Nat × Nat :=
  if d.exponent < 0 then (d.digits * unitsPerOne, Nat.pow 10 d.exponent.natAbs)
  else (d.digits * Nat.pow 10 d.exponent.natAbs * unitsPerOne, 1)

/-- Whether the decimal is at most the given number of units. -/
def Decimal.atMost (d : Decimal) (units : Nat) : Bool :=
  let (num, den) := d.inUnits
  num ≤ units * den

/-- The decimals that round to a positive magnitude: between half the distance to the neighbour
below and half the distance to the one above. Below a power of two the neighbours are closer. -/
def Decimal.roundsTo (d : Decimal) (units : Nat) : Bool :=
  let step := Binary64.spacing units
  let below := if units == Nat.pow 2 units.log2 && step > 1 then step else 2 * step
  let (num, den) := d.inUnits
  let low := (4 * units - below) * den
  let high := (4 * units + 2 * step) * den
  if (units / step) % 2 == 0 then low ≤ 4 * num && 4 * num ≤ high
  else low < 4 * num && 4 * num < high

/-- The exponent of the first digit of a positive magnitude. -/
def leadingExponent (units : Nat) : Int :=
  -- the guess from binary digits is off by one place at most
  let guess := (((units.log2 : Int) - 1074) * 30103) / 100000
  if Decimal.atMost ⟨1, guess + 1⟩ units then guess + 1
  else if Decimal.atMost ⟨1, guess⟩ units then guess
  else guess - 1

/-- The largest decimal with the given exponent that is at most the magnitude. -/
def decimalBelow (units : Nat) (exponent : Int) : Decimal :=
  let digits :=
    if exponent < 0 then units * Nat.pow 10 exponent.natAbs / unitsPerOne
    else units / (Nat.pow 10 exponent.natAbs * unitsPerOne)
  ⟨digits, exponent⟩

/-- Whether the second decimal is nearer to the magnitude than the first; both have one exponent,
the first is at most the magnitude and the second follows it. A tie goes to even digits. -/
def nextIsNearer (units : Nat) (d : Decimal) : Bool :=
  let (num, den) := Decimal.inUnits ⟨2 * d.digits + 1, d.exponent⟩
  num < 2 * units * den || (num == 2 * units * den && d.digits % 2 == 1)

/-- The decimal of the given exponent that stands for the magnitude, if there is one. -/
def decimalOn? (units : Nat) (exponent : Int) : Option Decimal :=
  let d := decimalBelow units exponent
  let next : Decimal := ⟨d.digits + 1, exponent⟩
  match d.roundsTo units, next.roundsTo units with
  | true, true => some (if nextIsNearer units d then next else d)
  | true, false => some d
  | false, true => some next
  | false, false => none

/-- The decimal with the fewest digits that stands for a positive magnitude. -/
def shortest (units : Nat) : Decimal :=
  let lead := leadingExponent units
  ((List.range 17).findSome? fun (more : Nat) => decimalOn? units (lead - (more : Int))).getD
    (decimalBelow units (lead - 16))

end Verdict.Number
