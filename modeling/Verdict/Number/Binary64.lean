/-!
# Binary floating-point numbers

A finite number is a whole multiple of the smallest positive one, `2 ^ -1074`, and is kept as that
multiple with a sign. So a comparison with an integer is a comparison of integers, and rounding is
one division: `roundQuotient` takes an exact quotient to the nearest number, a tie to the even one.

`Place` is the number line with both ends; `Binary64.place?` puts every number but the undefined
one on it, and integers have the place `Place.ofInt`.
-/

namespace Verdict.Number

/-- A binary floating-point number: undefined, infinite, or a signed multiple of `2 ^ -1074`. -/
inductive Binary64 where
  | nan
  | infinite (negative : Bool)
  | finite (negative : Bool) (units : Nat)
deriving DecidableEq, Repr, Inhabited

/-- The number of units in one. -/
def unitsPerOne : Nat := Nat.pow 2 1074

/-- A place on the number line, which has a lowest and a highest place. -/
inductive Place where
  | bottom
  | point (units : Int)
  | top
deriving DecidableEq, Repr

/-- The order of two places. -/
def Place.compare : Place → Place → Ordering
  | .bottom, .bottom => .eq
  | .bottom, _ => .lt
  | .point _, .bottom => .gt
  | .point a, .point b => if a < b then .lt else if a = b then .eq else .gt
  | .point _, .top => .lt
  | .top, .top => .eq
  | .top, _ => .gt

/-- Two places compare as equal exactly when they are the same place. -/
theorem Place.compare_eq_iff {a b : Place} : a.compare b = .eq ↔ a = b := by
  cases a with
  | bottom => cases b <;> simp [Place.compare]
  | top => cases b <;> simp [Place.compare]
  | point m =>
    cases b with
    | bottom => simp [Place.compare]
    | top => simp [Place.compare]
    | point n =>
      rcases Int.lt_trichotomy m n with h | h | h
      · simp [Place.compare, h, Int.ne_of_lt h]
      · simp [Place.compare, h]
      · simp [Place.compare, Int.not_lt.mpr (Int.le_of_lt h), (Int.ne_of_lt h).symm]

/-- Exchanging two places turns their order around. -/
theorem Place.compare_swap (a b : Place) : (a.compare b).swap = b.compare a := by
  cases a with
  | bottom => cases b <;> rfl
  | top => cases b <;> rfl
  | point m =>
    cases b with
    | bottom => rfl
    | top => rfl
    | point n =>
      rcases Int.lt_trichotomy m n with h | h | h
      · simp [Place.compare, h, Int.not_lt.mpr (Int.le_of_lt h), (Int.ne_of_lt h).symm]
      · simp [Place.compare, h]
      · simp [Place.compare, h, Int.not_lt.mpr (Int.le_of_lt h), (Int.ne_of_lt h).symm]

/-- The place of an integer. -/
def Place.ofInt (i : Int) : Place := .point (i * unitsPerOne)

namespace Binary64

/-- The place of a number on the number line; the undefined number has none. -/
def place? : Binary64 → Option Place
  | .nan => none
  | .infinite true => some .bottom
  | .infinite false => some .top
  | .finite true units => some (.point (-(units : Int)))
  | .finite false units => some (.point units)

/-- Positive zero. -/
def zero : Binary64 := .finite false 0

/-- Whether the number is a zero of either sign. -/
def isZero : Binary64 → Bool
  | .finite _ 0 => true
  | _ => false

/-- The number with the other sign. -/
def negate : Binary64 → Binary64
  | .nan => .nan
  | .infinite negative => .infinite (!negative)
  | .finite negative units => .finite (!negative) units

/-- The distance between neighbours at a magnitude: 53 binary digits are kept, and never less than
one unit is told apart. -/
def spacing (units : Nat) : Nat := Nat.pow 2 (units.log2 - 52)

/-- A quotient to the nearest whole number, a tie to the even one. -/
def divideNearest (num den : Nat) : Nat :=
  let quotient := num / den
  let rest := num % den
  if 2 * rest > den || (2 * rest == den && quotient % 2 == 1) then quotient + 1 else quotient

/-- The first magnitude that is too large to be finite. -/
def overflowUnits : Nat := Nat.pow 2 (1024 + 1074)

/-- The number nearest to a quotient of units. -/
def roundQuotient (negative : Bool) (num den : Nat) : Binary64 :=
  let step := spacing (num / den)
  let units := divideNearest num (den * step) * step
  if units < overflowUnits then .finite negative units else .infinite negative

/-- The number nearest to a fraction. -/
def ofFraction (negative : Bool) (num den : Nat) : Binary64 :=
  roundQuotient negative (num * unitsPerOne) den

/-- The number nearest to an integer. -/
def ofInt (i : Int) : Binary64 := ofFraction (i < 0) i.natAbs 1

/-- The number nearest to a signed sum of units; an exact zero takes the given sign. -/
def ofUnits (zeroSign : Bool) (units : Int) : Binary64 :=
  if units = 0 then .finite zeroSign 0 else roundQuotient (units < 0) units.natAbs 1

/-- The signed units of a finite number. -/
def signedUnits (negative : Bool) (units : Nat) : Int :=
  if negative then -(units : Int) else units

/-- The sum, rounded to nearest. -/
def add : Binary64 → Binary64 → Binary64
  | .nan, _ => .nan
  | _, .nan => .nan
  | .infinite a, .infinite b => if a = b then .infinite a else .nan
  | .infinite a, _ => .infinite a
  | _, .infinite b => .infinite b
  | .finite a m, .finite b n => ofUnits (a && b) (signedUnits a m + signedUnits b n)

/-- The product with a finite number that is not negative, rounded to nearest. -/
def scaleBy? (x : Binary64) : Binary64 → Option Binary64
  | .finite _ n =>
    some (match x with
    | .finite a m => roundQuotient a (m * n) unitsPerOne
    | .infinite a => if n = 0 then .nan else .infinite a
    | .nan => .nan)
  | _ => none

/-- The product with a natural number that is itself first rounded. The natural number must not be
too large to be finite. -/
def scale? (x : Binary64) (k : Nat) : Option Binary64 := x.scaleBy? (ofInt k)

/-- The remainder of a division whose remainder takes the sign of the divisor; the divisor is not
zero. An infinite dividend leaves nothing defined. -/
def remainder : Binary64 → Binary64 → Binary64
  | .nan, _ => .nan
  | _, .nan => .nan
  | .infinite _, _ => .nan
  | .finite a m, .infinite b =>
    if m = 0 then .finite b 0 else if a = b then .finite a m else .infinite b
  | .finite a m, .finite b n =>
    let rest := m % n
    if rest = 0 then .finite b 0
    else if a = b then roundQuotient a rest 1
    else roundQuotient b (n - rest) 1

end Binary64

end Verdict.Number
