import Verdict.Fault

/-!
# A place in a document

A `Cursor` is what is left of a text together with the place where it begins, the line and the
column. It also knows how many characters are left, so that they need not be counted. Every step of
reading moves a cursor forward.

Line ends have been unified before, so a carriage return is no line end here. A mark of byte order
takes up no column.
-/

namespace Verdict.Yaml

/-- Why a document has no value. -/
inductive DocumentFault where
  /-- The text is no document. -/
  | malformed
  /-- A scalar is to be a value of its kind and is none, or an escape names no character. -/
  | refused (fault : Fault)
deriving DecidableEq, Repr, Inhabited

/-- The mark of byte order. -/
def byteOrderMark : Char := '\uFEFF'

/-- Whether the character ends a line. -/
def isBreak (c : Char) : Bool := c == '\n' || c == '\x85' || c == '\u2028' || c == '\u2029'

/-- Whether the character is a space or a tab. -/
def isBlank (c : Char) : Bool := c == ' ' || c == '\t'

/-- What stands for a line end in a scalar: separators of lines and paragraphs for themselves, all
others for a line feed. -/
def breakChar (c : Char) : Char := if c == '\x85' then '\n' else c

/-- Whether a word ends before the character, or at the end of the text. -/
def endsWord : Option Char → Bool
  | none => true
  | some c => isBlank c || isBreak c

/-- Whether an item that must stand alone ends before the character: as for words, but a tab is no
end. -/
def endsItem : Option Char → Bool
  | none => true
  | some c => c == ' ' || isBreak c

/-- Whether the line ends before the character. -/
def endsLine : Option Char → Bool
  | none => true
  | some c => isBreak c

/-- What is left of a text, and where that begins. -/
structure Cursor where
  rest : List Char
  /-- The number of characters that are left. -/
  left : Nat
  line : Nat
  column : Nat
  left_eq : left = rest.length

namespace Cursor

/-- The beginning of a text. -/
def start (cs : List Char) : Cursor := ⟨cs, cs.length, 0, 0, rfl⟩

instance : Inhabited Cursor := ⟨start []⟩

/-- The next character. -/
def peek (c : Cursor) : Option Char := c.rest.head?

/-- The character at a distance. -/
def peekAt (c : Cursor) (distance : Nat) : Option Char := c.rest[distance]?

/-- The cursor behind the next character. -/
def next (c : Cursor) : Cursor :=
  match h : c.rest with
  | [] => c
  | ch :: rest =>
    have left_eq : c.left - 1 = rest.length := by simp [c.left_eq, h]
    if isBreak ch then ⟨rest, c.left - 1, c.line + 1, 0, left_eq⟩
    else
      ⟨rest, c.left - 1, c.line, if ch == byteOrderMark then c.column else c.column + 1, left_eq⟩

/-- The cursor behind a number of characters. -/
def skip : Nat → Cursor → Cursor
  | 0, c => c
  | n + 1, c => skip n c.next

/-- The cursor behind all the following characters that pass. -/
def skipWhile (pass : Char → Bool) (c : Cursor) : Cursor := c.skip (c.rest.takeWhile pass).length

/-- The following characters that pass, and the cursor behind them. -/
def takeWhile (pass : Char → Bool) (c : Cursor) : List Char × Cursor :=
  (c.rest.takeWhile pass, c.skipWhile pass)

/-- Whether the next character is the given one. -/
def isAt (c : Cursor) (ch : Char) : Bool := c.peek == some ch

/-- Whether the next character passes. -/
def isAtAny (c : Cursor) (pass : Char → Bool) : Bool := c.peek.any pass

/-- The line end that comes next, if one does, and the cursor behind it. -/
def takeBreak? (c : Cursor) : Option (Char × Cursor) :=
  match c.peek with
  | some ch => if isBreak ch then some (breakChar ch, c.next) else none
  | none => none

/-- Whether three of the character come next and nothing is joined to them. -/
def isAtTriple (c : Cursor) (ch : Char) : Bool :=
  c.rest.take 3 == [ch, ch, ch] && endsWord (c.peekAt 3)

/-- Whether one of the lines comes next that separate documents. -/
def isAtSeparator (c : Cursor) : Bool := c.isAtTriple '-' || c.isAtTriple '.'

/-- The cursor at the end of the line if a comment comes next. -/
def skipComment (c : Cursor) : Cursor := if c.isAt '#' then c.skipWhile (!isBreak ·) else c

/-- The cursor behind the end of a line on which nothing but blanks and a comment are left. -/
def skipLineEnd (c : Cursor) : Except DocumentFault Cursor :=
  let c := (c.skipWhile (· == ' ')).skipComment
  if endsLine c.peek then .ok c.next else .error .malformed

end Cursor

end Verdict.Yaml
