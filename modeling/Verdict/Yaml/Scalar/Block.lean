import Verdict.Text.Digits
import Verdict.Yaml.Cursor

/-!
# Block scalars

A block scalar takes the indented lines below its header, either line by line or folded, where line
ends between lines that begin with no blank become spaces. The header may give the indentation and
says what happens to the line ends at the end.
-/

namespace Verdict.Yaml

open Text

/-- What happens to the line ends at the end of a block scalar. -/
inductive Chomping where
  /-- All are dropped. -/
  | strip
  /-- One is kept. -/
  | clip
  /-- All are kept. -/
  | keep
deriving DecidableEq, Repr, Inhabited

/-- What the header of a block scalar says. -/
structure BlockHeader where
  chomping : Chomping
  /-- The indentation below that of the collection around it, if it is given. -/
  indentation : Option Nat

/-- The sign for the line ends at the end, if one comes next. -/
def chompingSign (c : Cursor) : Option Chomping × Cursor :=
  if c.isAt '+' then (some .keep, c.next)
  else if c.isAt '-' then (some .strip, c.next)
  else (none, c)

/-- The digit for the indentation, if one comes next; it is not zero. -/
def indentationDigit (c : Cursor) : Except DocumentFault (Option Nat × Cursor) :=
  match c.peek with
  | some ch =>
    if isDecimalDigit ch then
      let n := readDigits 10 0 [ch]
      if n = 0 then .error .malformed else .ok (some n, c.next)
    else .ok (none, c)
  | none => .ok (none, c)

/-- The header of a block scalar behind its indicator, and the cursor on the line below. -/
def blockHeader (c : Cursor) : Except DocumentFault (BlockHeader × Cursor) := do
  let (before, c) := chompingSign c
  let (indentation, c) ← indentationDigit c
  let (after, c) := if before.isNone && indentation.isSome then chompingSign c else (none, c)
  if !endsItem c.peek then throw .malformed
  let c ← c.skipLineEnd
  return (⟨(before.or after).getD .clip, indentation⟩, c)

/-- The cursor behind the spaces up to a column. -/
def toColumn (column : Nat) : Nat → Cursor → Cursor
  | 0, c => c
  | fuel + 1, c => if c.column < column && c.isAt ' ' then toColumn column fuel c.next else c

/-- The empty lines that come next, and the cursor behind the indentation of the first line that is
not empty. -/
def emptyLines (indent : Nat) : Nat → Cursor → List Char × Cursor
  | 0, c => ([], c)
  | fuel + 1, c =>
    let c := toColumn indent indent c
    match c.takeBreak? with
    | none => ([], c)
    | some (ch, c) =>
      let (more, c) := emptyLines indent fuel c
      (ch :: more, c)

/-- The empty lines before the first line, the deepest column reached, and the cursor on the first
line. -/
def leadingLines : Nat → Nat → Cursor → List Char × Nat × Cursor
  | 0, deepest, c => ([], deepest, c)
  | fuel + 1, deepest, c =>
    let c := c.skipWhile (· == ' ')
    let deepest := max deepest c.column
    match c.takeBreak? with
    | none => ([], deepest, c)
    | some (ch, c) =>
      let (more, deepest, c) := leadingLines fuel deepest c
      (ch :: more, deepest, c)

/-- What a line end and the empty lines after it leave between two lines. -/
def blockJoin (folded : Bool) (first : Char) (more : List Char) (bothFlush : Bool) : List Char :=
  if folded && first == '\n' && bothFlush then (if more.isEmpty then [' '] else more)
  else first :: more

/-- The line ends that are kept at the end. -/
def chomp (chomping : Chomping) (last : List Char) (more : List Char) : List Char :=
  match chomping with
  | .strip => []
  | .clip => last
  | .keep => last ++ more

/-- The lines of a block scalar from the one at the cursor on. -/
def blockLines (folded : Bool) (chomping : Chomping) (indent : Nat) :
    Nat → Cursor → List Char × Cursor
  | 0, c => ([], c)
  | fuel + 1, c =>
    let isFlush := !c.isAtAny isBlank
    let (line, c) := c.takeWhile (!isBreak ·)
    match c.takeBreak? with
    | none => (line, c)
    | some (first, c) =>
      let (empty, c) := emptyLines indent (c.left + 1) c
      if c.column == indent && c.peek.isSome then
        let gap := blockJoin folded first empty (isFlush && !c.isAtAny isBlank)
        let (more, c) := blockLines folded chomping indent fuel c
        (line ++ gap ++ more, c)
      else (line ++ chomp chomping [first] empty, c)

/-- The text of the block scalar whose indicator comes next, inside a collection with an
indentation, and the cursor behind it. -/
def blockScalar (folded : Bool) (indent : Int) (c : Cursor) :
    Except DocumentFault (String × Cursor) := do
  let (header, c) ← blockHeader c.next
  let least := max (indent + 1).toNat 1
  let (before, column, c) := match header.indentation with
    | some n =>
      let column := least + n - 1
      let (before, c) := emptyLines column (c.left + 1) c
      (before, column, c)
    | none =>
      let (before, deepest, c) := leadingLines (c.left + 1) 0 c
      (before, max least deepest, c)
  if c.column == column && c.peek.isSome then
    let (cs, c) := blockLines folded header.chomping column (c.left + 1) c
    return (String.ofList (before ++ cs), c)
  else return (String.ofList (chomp header.chomping [] before), c)

end Verdict.Yaml
