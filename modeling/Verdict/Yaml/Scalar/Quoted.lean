import Verdict.Text.Digits
import Verdict.Yaml.Cursor

/-!
# Quoted scalars

Between quotes blanks around a line end are dropped and a single line end becomes a space; of
several, all but the first are kept. Single quotes write a quote twice; double quotes escape with a
backslash, also a line end that is to leave nothing behind.
-/

namespace Verdict.Yaml

open Text

/-- What a character behind a backslash stands for, for those that stand for one character. -/
def escapeChar? (c : Char) : Option Char :=
  match c with
  | '0' => some '\x00'
  | 'a' => some '\x07'
  | 'b' => some '\x08'
  | 't' => some '\t'
  | '\t' => some '\t'
  | 'n' => some '\n'
  | 'v' => some '\x0b'
  | 'f' => some '\x0c'
  | 'r' => some '\r'
  | 'e' => some '\x1b'
  | ' ' => some ' '
  | '"' => some '"'
  | '\\' => some '\\'
  | '/' => some '/'
  | 'N' => some '\x85'
  | '_' => some '\xa0'
  | 'L' => some '\u2028'
  | 'P' => some '\u2029'
  | _ => none

/-- The number of hexadecimal digits that follow a character behind a backslash. -/
def escapeWidth? (c : Char) : Option Nat :=
  match c with
  | 'x' => some 2
  | 'u' => some 4
  | 'U' => some 8
  | _ => none

/-- The character with a number. Numbers beyond the last character are refused. -/
def numberedChar (n : Nat) : Except DocumentFault Char :=
  if n ≥ Nat.pow 2 31 then .error (.refused .overflow)
  else if n ≥ 0x110000 then .error (.refused .characterOutOfRange)
  else if h : n.isValidChar then .ok (Char.ofNatAux n h)
  else .error .malformed

/-- The line ends that follow, with the blanks around them dropped. A line that separates documents
must not be among them. -/
def foldedBreaks : Nat → Cursor → Except DocumentFault (List Char × Cursor)
  | 0, _ => .error .malformed
  | fuel + 1, c =>
    if c.isAtSeparator then .error .malformed
    else
      let c := c.skipWhile isBlank
      match c.takeBreak? with
      | none => .ok ([], c)
      | some (ch, c) => (foldedBreaks fuel c).map fun (more, c) => (ch :: more, c)

/-- What line ends leave behind: a single line feed becomes a space, and of several the first is
dropped. -/
def foldBreaks (first : Char) (more : List Char) : List Char :=
  if first ≠ '\n' then first :: more else if more.isEmpty then [' '] else more

/-- The blanks and line ends that follow between quotes. -/
def quotedGap (c : Cursor) : Except DocumentFault (List Char × Cursor) :=
  let (blanks, c) := c.takeWhile isBlank
  match c.takeBreak? with
  | none => .ok (blanks, c)
  | some (first, c) =>
    (foldedBreaks (c.left + 1) c).map fun (more, c) => (foldBreaks first more, c)

/-- What stands behind a backslash. -/
def escaped (c : Cursor) : Except DocumentFault (List Char × Cursor) :=
  match c.peek with
  | none => .error .malformed
  | some ch =>
    match escapeChar? ch, escapeWidth? ch with
    | some plain, _ => .ok ([plain], c.next)
    | none, some width =>
      let ds := c.next.rest.take width
      if ds.length = width && ds.all (isDigitOf 16) then
        (numberedChar (readDigits 16 0 ds)).map fun plain => ([plain], c.next.skip width)
      else .error .malformed
    | none, none =>
      match c.takeBreak? with
      | some (_, c) => foldedBreaks (c.left + 1) c
      | none => .error .malformed

/-- The rest of a quoted scalar after what has been read, which is given backwards. -/
def quotedFrom (double : Bool) :
    Nat → List Char → Cursor → Except DocumentFault (List Char × Cursor)
  | 0, _, _ => .error .malformed
  | fuel + 1, read, c =>
    match c.rest with
    | [] => .error .malformed
    | ch :: after =>
      if isBlank ch || isBreak ch then do
        let (gap, c) ← quotedGap c
        quotedFrom double fuel (gap.reverse ++ read) c
      else if double && ch == '\\' then do
        let (plain, c) ← escaped c.next
        quotedFrom double fuel (plain.reverse ++ read) c
      else if !double && ch == '\'' && after.head? == some '\'' then
        quotedFrom double fuel ('\'' :: read) (c.skip 2)
      else if ch == (if double then '"' else '\'') then .ok (read.reverse, c.next)
      else quotedFrom double fuel (ch :: read) c.next

/-- The text of the quoted scalar that comes next, and the cursor behind it. -/
def quotedScalar (double : Bool) (c : Cursor) : Except DocumentFault (String × Cursor) :=
  (quotedFrom double c.left [] c.next).map fun (cs, c) => (String.ofList cs, c)

end Verdict.Yaml
