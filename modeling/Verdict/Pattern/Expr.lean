import Verdict.Pattern.CharSet

/-!
# Pattern expressions

A pattern is read into an expression: single characters, places in the text, sequences and choices,
groups that remember what they matched, repetitions, and looks ahead or behind. `Expr.width` gives
the least and the greatest number of characters that an expression can match.
-/

namespace Verdict.Pattern

/-- A place in the text. -/
inductive Anchor where
  /-- The start of the text, or of a line. -/
  | lineStart
  /-- The end of the text or the place before its final line end, or the end of a line. -/
  | lineEnd
  | textStart
  | textEnd
  | wordEdge
  | notWordEdge
deriving DecidableEq, Repr, Inhabited

/-- How often a repetition tries. -/
inductive Greed where
  /-- As often as possible first, then less often. -/
  | greedy
  /-- As seldom as possible first, then more often. -/
  | reluctant
  /-- As often as possible and never less. -/
  | possessive
deriving DecidableEq, Repr, Inhabited

/-- A pattern expression. -/
inductive Expr where
  | empty
  /-- One character of the set. -/
  | one (o : Options) (s : CharSet)
  /-- Any character, or any that is no line end. -/
  | any (o : Options)
  | anchor (o : Options) (a : Anchor)
  | seq (first second : Expr)
  | alt (first second : Expr)
  | group (index : Nat) (body : Expr)
  /-- What the group matched, once more. -/
  | backref (o : Options) (index : Nat)
  | many (greed : Greed) (min : Nat) (max : Option Nat) (body : Expr)
  /-- The first way in which the body matches, and no other. -/
  | atomic (body : Expr)
  | ahead (negated : Bool) (body : Expr)
  /-- The body matches the given number of characters before this place. -/
  | behind (negated : Bool) (width : Nat) (body : Expr)
  /-- One of two ways, by whether the group has matched. -/
  | choice (index : Nat) (yes no : Expr)
deriving Inhabited

/-- The least and the greatest number of characters; the greatest may be without bound. -/
structure Width where
  least : Nat
  greatest : Option Nat
deriving DecidableEq, Repr, Inhabited

/-- The sum of two bounds. -/
def addBounds : Option Nat → Option Nat → Option Nat
  | some a, some b => some (a + b)
  | _, _ => none

/-- The greater of two bounds. -/
def maxBounds : Option Nat → Option Nat → Option Nat
  | some a, some b => some (max a b)
  | _, _ => none

/-- The width of one expression after another. -/
def Width.add (v w : Width) : Width := ⟨v.least + w.least, addBounds v.greatest w.greatest⟩

/-- The width of one expression or another. -/
def Width.or (v w : Width) : Width := ⟨min v.least w.least, maxBounds v.greatest w.greatest⟩

/-- The width of a repetition. -/
def Width.times (w : Width) (least : Nat) (greatest : Option Nat) : Width :=
  ⟨w.least * least,
    match w.greatest, greatest with
    | some 0, _ => some 0
    | some n, some k => some (n * k)
    | none, some 0 => some 0
    | _, _ => none⟩

/-- The width of an expression; the widths of groups are known. -/
def Expr.width (groups : Nat → Width) : Expr → Width
  | .empty | .anchor _ _ | .ahead _ _ | .behind _ _ _ => ⟨0, some 0⟩
  | .one _ _ | .any _ => ⟨1, some 1⟩
  | .seq a b => (a.width groups).add (b.width groups)
  | .alt a b => (a.width groups).or (b.width groups)
  | .group _ a | .atomic a => a.width groups
  | .backref _ i => groups i
  | .many _ least greatest a => (a.width groups).times least greatest
  | .choice _ a b => (a.width groups).or (b.width groups)

end Verdict.Pattern
