import Verdict.Yaml.Scalar.Quoted

/-!
# Plain scalars

A plain scalar is written without quotes: words with single blanks between them, over several lines
as long as they are indented. It ends before a comment, before a colon that ends a word, and inside
brackets before their punctuation.
-/

namespace Verdict.Yaml

/-- The characters that structure a document and cannot begin a plain scalar. -/
def isIndicator (c : Char) : Bool := "-?:,[]\x7b\x7d#&*!|>'\"%@\x60".toList.contains c

/-- The punctuation of bracketed collections. -/
def isFlowPunctuation (c : Char) : Bool := ",[]\x7b\x7d".toList.contains c

/-- Whether a plain scalar can begin here. Some indicators are harmless when joined to a word. -/
def beginsPlain (inFlow : Bool) (c : Cursor) : Bool :=
  match c.peek with
  | none => false
  | some ch =>
    !(isBlank ch || isBreak ch || isIndicator ch) ||
      (!endsWord (c.peekAt 1) && (ch == '-' || (!inFlow && (ch == '?' || ch == ':'))))

/-- Whether a word of a plain scalar ends before the character, given the one after it. -/
def endsPlainWord (inFlow : Bool) (ch : Char) (after : Option Char) : Bool :=
  isBlank ch || isBreak ch ||
    (ch == ':' && (endsWord after || (inFlow && after.any isFlowPunctuation))) ||
    (inFlow && (ch == '?' || isFlowPunctuation ch))

/-- The word of a plain scalar at the front of the characters. -/
def plainWord (inFlow : Bool) : List Char → List Char
  | [] => []
  | ch :: rest => if endsPlainWord inFlow ch rest.head? then [] else ch :: plainWord inFlow rest

/-- The line ends that follow, with the spaces around them dropped; nothing if a line comes that
separates documents. -/
def plainBreaks : Nat → Cursor → Option (List Char) × Cursor
  | 0, c => (none, c)
  | fuel + 1, c =>
    if c.isAtSeparator then (none, c)
    else
      let c := c.skipWhile (· == ' ')
      match c.takeBreak? with
      | none => (some [], c)
      | some (ch, c) =>
        let (more, c) := plainBreaks fuel c
        (more.map (ch :: ·), c)

/-- A gap between words: what it leaves in the scalar, whether a line ends in it, and the cursor
behind it. Before a line that separates documents nothing is left. -/
def plainGap (c : Cursor) : List Char × Bool × Cursor :=
  let (spaces, c) := c.takeWhile (· == ' ')
  match c.takeBreak? with
  | none => (spaces, false, c)
  | some (first, c) =>
    let (more, c) := plainBreaks (c.left + 1) c
    match more with
    | none => ([], true, c)
    | some more => (foldBreaks first more, true, c)

/-- A plain scalar as it was read. -/
structure PlainText where
  text : List Char
  /-- Whether a line ends behind the last word. -/
  lineEnded : Bool
  cursor : Cursor

/-- What comes of a plain scalar behind a gap. Without a further word the gap is dropped. -/
def plainFrom (inFlow : Bool) (indent : Int) : Nat → List Char → Bool → Cursor → PlainText
  | 0, _, lineEnded, c => ⟨[], lineEnded, c⟩
  | fuel + 1, gap, lineEnded, c =>
    let word := plainWord inFlow c.rest
    if c.isAt '#' || word.isEmpty then ⟨[], lineEnded, c⟩
    else
      let (next, lineEnded, c) := plainGap (c.skip word.length)
      if next.isEmpty || (!inFlow && (c.column : Int) < indent) then ⟨gap ++ word, lineEnded, c⟩
      else
        let more := plainFrom inFlow indent fuel next lineEnded c
        { more with text := gap ++ word ++ more.text }

/-- The plain scalar that comes next. Its further lines have to be indented deeper than the
collection around it. -/
def plainScalar (inFlow : Bool) (indent : Int) (c : Cursor) : PlainText :=
  plainFrom inFlow (indent + 1) (c.left + 1) [] false c

end Verdict.Yaml
