import Verdict.Pattern.Expr

/-!
# Matching

`Expr.run` looks for a way to match an expression from a cursor and to go on from where it ends.
Ways are tried in the order that the expression gives, and the first that can go on is taken.
A repetition that has matched nothing in a round goes on with what comes after it, so a round
beyond the required ones consumes a character or is the last.
-/

namespace Verdict.Pattern

/-- A place in a text: the characters before it, nearest first, those after it, the number of
those before it, and what groups have matched, latest first. -/
structure Cursor where
  before : List Char
  after : List Char
  place : Nat
  groups : List (Nat × List Char)
deriving Inhabited

namespace Cursor

/-- The start of a text. -/
def start (text : List Char) : Cursor := ⟨[], text, 0, []⟩

/-- The cursor after the next character. -/
def step (s : Cursor) (c : Char) (rest : List Char) : Cursor :=
  { s with before := c :: s.before, after := rest, place := s.place + 1 }

/-- The cursor with a group that matched from an earlier cursor. -/
def capture (s : Cursor) (index : Nat) (origin : Cursor) : Cursor :=
  { s with groups := (index, (s.before.take (s.place - origin.place)).reverse) :: s.groups }

/-- The cursor the given number of characters back, if there are as many. -/
def back? (width : Nat) (s : Cursor) : Option Cursor :=
  if width ≤ s.place then
    some { s with
      before := s.before.drop width
      after := (s.before.take width).reverse ++ s.after
      place := s.place - width }
  else none

/-- Whether the character next to the cursor is a word character. -/
def wordAt (o : Options) : List Char → Bool
  | [] => false
  | c :: _ => CharClass.word.has o.ascii c.toNat

/-- Whether the place is an edge of a word. A text without characters has neither an edge nor
anything else. -/
def atEdge (o : Options) (s : Cursor) (wanted : Bool) : Bool :=
  !(s.before.isEmpty && s.after.isEmpty) && (wordAt o s.before != wordAt o s.after) == wanted

/-- Whether the cursor is at the place. -/
def isAt (o : Options) (s : Cursor) : Anchor → Bool
  | .textStart => s.before.isEmpty
  | .textEnd => s.after.isEmpty
  | .lineStart => s.before.isEmpty || (o.multiline && s.before.head? == some '\n')
  | .lineEnd =>
    s.after.isEmpty || s.after == ['\n'] || (o.multiline && s.after.head? == some '\n')
  | .wordEdge => s.atEdge o true
  | .notWordEdge => s.atEdge o false

end Cursor

/-- A way to go on. -/
abbrev Onward := Cursor → Option Cursor

/-- Whether two characters are the same under the options. -/
def sameChar (o : Options) (c d : Char) : Bool :=
  if o.ignoreCase then o.lower c.toNat == o.lower d.toNat else c == d

/-- The cursor after the given characters, if they come next. -/
def skip? (o : Options) : List Char → Cursor → Option Cursor
  | [], s => some s
  | c :: cs, s =>
    match s.after with
    | [] => none
    | d :: rest => if sameChar o c d then skip? o cs (s.step d rest) else none

/-- Whether another round is allowed. -/
def mayRepeat (max : Option Nat) (count : Nat) : Bool :=
  match max with
  | none => true
  | some n => count < n

/-- Rounds of a body, as many as possible first. The last place is where the round before began;
the first argument bounds the rounds. -/
def rounds (body : Onward → Onward) (onward : Onward) (min : Nat) (max : Option Nat) :
    Nat → Nat → Option Nat → Onward
  | 0, _, _, _ => none
  | fuel + 1, count, last, s =>
    if count < min then body (rounds body onward min max fuel (count + 1) last) s
    -- a round that begins where the one before began would match nothing again
    else if mayRepeat max count && last != some s.place then
      match body (rounds body onward min max fuel (count + 1) (some s.place)) s with
      | some done => some done
      | none => onward s
    else onward s

/-- Rounds of a body, as few as possible first. -/
def fewRounds (body : Onward → Onward) (onward : Onward) (min : Nat) (max : Option Nat) :
    Nat → Nat → Option Nat → Onward
  | 0, _, _, _ => none
  | fuel + 1, count, last, s =>
    if count < min then body (fewRounds body onward min max fuel (count + 1) last) s
    else
      match onward s with
      | some done => some done
      | none =>
        if mayRepeat max count && last != some s.place then
          body (fewRounds body onward min max fuel (count + 1) (some s.place)) s
        else none

/-- Rounds that are never taken back. -/
def fixedRounds (once : Onward) (min : Nat) (max : Option Nat) : Nat → Nat → Option Nat → Onward
  | 0, _, _, _ => none
  | fuel + 1, count, last, s =>
    if count < min then
      match once s with
      | some next => fixedRounds once min max fuel (count + 1) last next
      | none => none
    else if mayRepeat max count && last != some s.place then
      match once s with
      | some next => fixedRounds once min max fuel (count + 1) (some s.place) next
      | none => some s
    else some s

/-- A bound on the rounds from a cursor: the required ones, one for each character to come, and
one that matches nothing. -/
def roundsFrom (min : Nat) (s : Cursor) : Nat := min + s.after.length + 2

/-- The first way to match the expression from the cursor and to go on. -/
def Expr.run : Expr → Onward → Onward
  | .empty, onward, s => onward s
  | .one o set, onward, s =>
    match s.after with
    | [] => none
    | c :: rest => if set.has o c then onward (s.step c rest) else none
  | .any o, onward, s =>
    match s.after with
    | [] => none
    | c :: rest => if o.dotAll || c != '\n' then onward (s.step c rest) else none
  | .anchor o a, onward, s => if s.isAt o a then onward s else none
  | .seq a b, onward, s => a.run (b.run onward) s
  | .alt a b, onward, s =>
    match a.run onward s with
    | some done => some done
    | none => b.run onward s
  | .group index a, onward, s => a.run (fun t => onward (t.capture index s)) s
  | .backref o index, onward, s =>
    match s.groups.lookup index with
    | none => none
    | some text => (skip? o text s).bind onward
  | .many .greedy min max a, onward, s =>
    rounds a.run onward min max (roundsFrom min s) 0 none s
  | .many .reluctant min max a, onward, s =>
    fewRounds a.run onward min max (roundsFrom min s) 0 none s
  | .many .possessive min max a, onward, s =>
    (fixedRounds (a.run some) min max (roundsFrom min s) 0 none s).bind onward
  | .atomic a, onward, s => (a.run some s).bind onward
  | .ahead false a, onward, s =>
    match a.run some s with
    | some t => onward { s with groups := t.groups }
    | none => none
  -- what a refused look would have remembered is forgotten
  | .ahead true a, onward, s =>
    match a.run some s with
    | some _ => none
    | none => onward s
  | .behind false width a, onward, s =>
    match (s.back? width).bind (a.run some) with
    | some t => onward { s with groups := t.groups }
    | none => none
  | .behind true width a, onward, s =>
    match (s.back? width).bind (a.run some) with
    | some _ => none
    | none => onward s
  | .choice index yes no, onward, s =>
    match s.groups.lookup index with
    | some _ => yes.run onward s
    | none => no.run onward s

/-- Whether the expression can match the whole text. -/
def Expr.matchesAll (e : Expr) (text : List Char) : Bool :=
  (e.run (fun s => if s.after.isEmpty then some s else none) (Cursor.start text)).isSome

end Verdict.Pattern
