import Verdict.Yaml.Scalar.Block
import Verdict.Yaml.Scalar.Plain

/-!
# Tokens

Indentation structures a document, and a mapping may begin before it can be told: a colon behind a
scalar makes that scalar a key. So the beginning of whatever could become a key is marked among the
tokens, and the mark is replaced by what it turns out to stand for when the colon comes, or dropped
when none can come any more. `Token.ofText` gives the tokens of a text.
-/

namespace Verdict.Yaml

/-- The smallest parts of a document. -/
inductive Token where
  /-- Which version the document is written in. -/
  | version (major : Nat)
  /-- What a tag handle stands for. -/
  | handle (name stands : String)
  /-- A directive without meaning here. -/
  | directive
  | documentStart
  | documentEnd
  | blockSequence
  | blockMapping
  | blockEnd
  | flowSequence
  | flowSequenceEnd
  | flowMapping
  | flowMappingEnd
  | entry
  | comma
  | key
  | value
  | anchor (name : String)
  | reference (name : String)
  | tag (handle : Option String) (suffix : String)
  | scalar (text : String) (plain : Bool)
deriving DecidableEq, Repr, Inhabited

/-! ## Marks among tokens -/

/-- A token, or the mark of where a key may begin. -/
inductive Slot where
  | token (t : Token)
  | mark (number : Nat)

/-- Slots latest first, with a mark replaced by tokens. -/
def fillMark (number : Nat) (tokens : List Token) : List Slot → List Slot
  | [] => []
  | .mark n :: rest =>
    if n = number then tokens.reverse.map .token ++ rest
    else .mark n :: fillMark number tokens rest
  | .token t :: rest => .token t :: fillMark number tokens rest

/-- The tokens among slots that are given latest first. -/
def tokensOf (slots : List Slot) : List Token :=
  slots.reverse.filterMap fun
    | .token t => some t
    | .mark _ => none

/-! ## The state of reading -/

/-- Something that a colon would make a key. -/
structure PendingKey where
  /-- The number of its mark. -/
  mark : Nat
  /-- The depth of brackets around it. -/
  depth : Nat
  /-- Whether it can be nothing but a key, because it stands where a block key has to stand. -/
  required : Bool
  /-- The number of characters that were left where it begins. -/
  left : Nat
  line : Nat
  column : Nat

/-- How far the reading of tokens has come. -/
structure Progress where
  cursor : Cursor
  /-- The slots so far, latest first. -/
  slots : List Slot
  marks : Nat
  pending : List PendingKey
  /-- The depth of brackets. -/
  depth : Nat
  /-- The column of the innermost block collection, below zero outside of all. -/
  indent : Int
  /-- The columns of the block collections around it. -/
  outer : List Int
  /-- Whether a key may begin here. -/
  keyAllowed : Bool

namespace Progress

/-- The beginning of a text. -/
def start (cs : List Char) : Progress := ⟨.start cs, [], 0, [], 0, -1, [], true⟩

/-- Whether brackets are open. -/
def inFlow (p : Progress) : Bool := p.depth != 0

/-- One more token. -/
def emit (p : Progress) (t : Token) : Progress := { p with slots := .token t :: p.slots }

/-- The cursor moved. -/
def moveTo (p : Progress) (c : Cursor) : Progress := { p with cursor := c }

/-- A key may begin here, or may not. -/
def allowKey (p : Progress) (allowed : Bool) : Progress := { p with keyAllowed := allowed }

/-- Gives up what can no longer become a key, because the line has ended or it is too far back. -/
def expire (p : Progress) : Except DocumentFault Progress :=
  let isStale (k : PendingKey) := k.line != p.cursor.line || k.left - p.cursor.left > 1024
  if p.pending.any fun k => isStale k && k.required then .error .malformed
  else .ok { p with pending := p.pending.filter fun k => !isStale k }

/-- Gives up what could have become a key at this depth. -/
def dropKey (p : Progress) : Except DocumentFault Progress :=
  if p.pending.any fun k => k.depth == p.depth && k.required then .error .malformed
  else .ok { p with pending := p.pending.filter fun k => k.depth != p.depth }

/-- Marks what comes next as a possible key, where one may begin. -/
def saveKey (p : Progress) : Except DocumentFault Progress :=
  if !p.keyAllowed then .ok p
  else do
    let p ← p.dropKey
    let c := p.cursor
    let required := !p.inFlow && p.indent == c.column
    let key := ⟨p.marks, p.depth, required, c.left, c.line, c.column⟩
    return { p with
      slots := .mark p.marks :: p.slots
      marks := p.marks + 1
      pending := key :: p.pending }

/-- Closes the given block collections that are indented deeper than a column. -/
def unwindFrom (column : Int) : List Int → Progress → Progress
  | [], p => p
  | around :: outer, p =>
    if p.indent > column then
      unwindFrom column outer { p.emit .blockEnd with indent := around, outer := outer }
    else p

/-- Closes the block collections that are indented deeper than a column. -/
def unwind (column : Int) (p : Progress) : Progress :=
  if p.inFlow then p else unwindFrom column p.outer p

/-- Whether a block collection begins at a column, and the progress inside it if so. -/
def deepen (p : Progress) (column : Int) : Bool × Progress :=
  if p.indent < column then (true, { p with indent := column, outer := p.indent :: p.outer })
  else (false, p)

/-- Opens a block collection at the cursor if one begins there. It may only begin where a key
may. -/
def openBlock (p : Progress) (t : Token) : Except DocumentFault Progress :=
  if p.inFlow then .ok p
  else if !p.keyAllowed then .error .malformed
  else
    let (opens, p) := p.deepen p.cursor.column
    .ok (if opens then p.emit t else p)

/-- A token of one character. -/
def takeSign (p : Progress) (t : Token) : Progress := (p.emit t).moveTo p.cursor.next

end Progress

/-! ## Names, tags and directives -/

/-- Whether the character can stand in the name of an anchor, a directive or a handle. -/
def isNameChar (c : Char) : Bool :=
  ('0' ≤ c && c ≤ '9') || ('A' ≤ c && c ≤ 'Z') || ('a' ≤ c && c ≤ 'z') || c == '-' || c == '_'

/-- Whether the character can stand in a tag. -/
def isTagChar (c : Char) : Bool :=
  isNameChar c || ";/?:@&=+$,.!~*'()[]".toList.contains c

/-- The name of an anchor or a reference behind its indicator, and the cursor behind it. -/
def anchorName (c : Cursor) : Except DocumentFault (String × Cursor) :=
  let (name, c) := c.takeWhile isNameChar
  if name.isEmpty then .error .malformed
  else if endsWord c.peek || c.isAtAny "?:,]\x7d%@\x60".toList.contains then
    .ok (String.ofList name, c)
  else .error .malformed

/-- The handle of a tag, which begins and ends with an exclamation mark or is one. -/
def tagHandle (c : Cursor) : Except DocumentFault (String × Cursor) :=
  if !c.isAt '!' then .error .malformed
  else if c.next.isAt ' ' then .ok ("!", c.next)
  else
    let (name, c) := c.next.takeWhile isNameChar
    if c.isAt '!' then .ok (String.ofList ('!' :: name ++ ['!']), c.next) else .error .malformed

/-- The characters of a tag; there has to be one. -/
def tagText (c : Cursor) : Except DocumentFault (String × Cursor) :=
  let (cs, c) := c.takeWhile isTagChar
  if cs.isEmpty then .error .malformed else .ok (String.ofList cs, c)

/-- The tag that comes next. -/
def tagToken (c : Cursor) : Except DocumentFault (Token × Cursor) := do
  let (token, c) ←
    if c.next.isAt '<' then do
      let (suffix, c) ← tagText (c.skip 2)
      if c.isAt '>' then pure (Token.tag none suffix, c.next) else throw .malformed
    else if endsWord c.next.peek then pure (Token.tag none "!", c.next)
    else do
      let word := c.next.rest.takeWhile fun ch => !(ch == ' ' || isBreak ch)
      let (handle, c) ← if word.contains '!' then tagHandle c else pure ("!", c.next)
      let (suffix, c) ← tagText c
      pure (Token.tag (some handle) suffix, c)
  if endsItem c.peek then return (token, c) else throw .malformed

/-- The digits of a version. -/
def versionNumber (c : Cursor) : Except DocumentFault (Nat × Cursor) :=
  let (ds, c) := c.takeWhile Text.isDecimalDigit
  if ds.isEmpty then .error .malformed else .ok (Text.readDigits 10 0 ds, c)

/-- The directive that comes next, and the cursor on the line below. -/
def directiveToken (c : Cursor) : Except DocumentFault (Token × Cursor) := do
  let (name, c) := c.next.takeWhile isNameChar
  if name.isEmpty || !endsItem c.peek then throw .malformed
  let (token, c) ←
    if name == "YAML".toList then do
      let (major, c) ← versionNumber (c.skipWhile (· == ' '))
      if !c.isAt '.' then throw .malformed
      let (_, c) ← versionNumber c.next
      if !endsItem c.peek then throw .malformed
      pure (Token.version major, c)
    else if name == "TAG".toList then do
      let (handle, c) ← tagHandle (c.skipWhile (· == ' '))
      if !c.isAt ' ' then throw .malformed
      let (stands, c) ← tagText (c.skipWhile (· == ' '))
      if !endsItem c.peek then throw .malformed
      pure (Token.handle handle stands, c)
    else pure (Token.directive, c.skipWhile (!isBreak ·))
  let c ← c.skipLineEnd
  return (token, c)

namespace Progress

/-! ## Steps -/

/-- The cursor on the next token, past blanks, comments and line ends. Behind a line end a block key
may begin. -/
def toNextToken : Nat → Progress → Progress
  | 0, p => p
  | fuel + 1, p =>
    let c := (p.cursor.skipWhile (· == ' ')).skipComment
    match c.takeBreak? with
    | none => p.moveTo c
    -- between brackets a line end allows no key that was not allowed before it
    | some (_, c) =>
      toNextToken fuel { p with cursor := c, keyAllowed := !p.inFlow || p.keyAllowed }

/-- A mark between documents. -/
def takeSeparator (p : Progress) (t : Token) : Except DocumentFault Progress := do
  let p ← (p.unwind (-1)).dropKey
  return ((p.allowKey false).emit t).moveTo (p.cursor.skip 3)

/-- An opening bracket. -/
def openFlow (p : Progress) (t : Token) : Except DocumentFault Progress := do
  let p ← p.saveKey
  return { (p.takeSign t).allowKey true with depth := p.depth + 1 }

/-- A closing bracket; one has to be open. -/
def closeFlow (p : Progress) (t : Token) : Except DocumentFault Progress := do
  let p ← p.dropKey
  if p.depth = 0 then throw .malformed
  return { (p.takeSign t).allowKey false with depth := p.depth - 1 }

/-- A comma between brackets. -/
def takeComma (p : Progress) : Except DocumentFault Progress := do
  let p ← p.dropKey
  return (p.takeSign .comma).allowKey true

/-- The hyphen of a block sequence. -/
def takeEntry (p : Progress) : Except DocumentFault Progress := do
  let p ← (← p.openBlock .blockSequence).dropKey
  return (p.takeSign .entry).allowKey true

/-- The question mark in front of a key. -/
def takeKey (p : Progress) : Except DocumentFault Progress := do
  let p ← (← p.openBlock .blockMapping).dropKey
  return (p.takeSign .key).allowKey !p.inFlow

/-- The colon in front of a value. What was pending as a key before it is one. -/
def takeValue (p : Progress) : Except DocumentFault Progress := do
  match p.pending.find? fun k => k.depth == p.depth with
  -- the mark in front of the key stands for it now, and perhaps for a mapping that it begins
  | some k =>
    let p := { p with pending := p.pending.filter fun k => k.depth != p.depth }
    let (opens, p) := if p.inFlow then (false, p) else p.deepen k.column
    let tokens := if opens then [.blockMapping, .key] else [.key]
    let p := { p with slots := fillMark k.mark tokens p.slots }
    return (p.takeSign .value).allowKey false
  | none =>
    let p ← (← p.openBlock .blockMapping).dropKey
    return (p.takeSign .value).allowKey !p.inFlow

/-- A token that may be or belong to a key. -/
def takeKeyPart (p : Progress) (read : Cursor → Except DocumentFault (Token × Cursor)) :
    Except DocumentFault Progress := do
  let p ← p.saveKey
  let (t, c) ← read p.cursor
  return ((p.emit t).moveTo c).allowKey false

/-- A plain scalar, behind which a key may begin if its last line has ended. -/
def takePlain (p : Progress) : Except DocumentFault Progress := do
  let p ← p.saveKey
  let read := plainScalar p.inFlow p.indent p.cursor
  let p := p.emit (.scalar (String.ofList read.text) true)
  return (p.moveTo read.cursor).allowKey read.lineEnded

/-- A block scalar, behind which a key may begin. -/
def takeBlockScalar (p : Progress) (folded : Bool) : Except DocumentFault Progress := do
  let p ← p.dropKey
  let (text, c) ← blockScalar folded p.indent p.cursor
  return ((p.emit (.scalar text false)).moveTo c).allowKey true

/-- The progress behind the next token; the cursor is on it. -/
def takeToken (p : Progress) : Except DocumentFault Progress :=
  let c := p.cursor
  let alone := endsWord (c.peekAt 1)
  match c.peek with
  | none => .ok p
  | some ch =>
    -- directives and marks between documents are such only at the beginning of a line
    if ch == '%' && c.column == 0 then do
      let p ← (p.unwind (-1)).dropKey
      let (t, c) ← directiveToken c
      return ((p.emit t).moveTo c).allowKey false
    else if c.column == 0 && c.isAtTriple '-' then p.takeSeparator .documentStart
    else if c.column == 0 && c.isAtTriple '.' then p.takeSeparator .documentEnd
    else if ch == '[' then p.openFlow .flowSequence
    else if ch == '{' then p.openFlow .flowMapping
    else if ch == ']' then p.closeFlow .flowSequenceEnd
    else if ch == '}' then p.closeFlow .flowMappingEnd
    else if ch == ',' then p.takeComma
    else if ch == '-' && alone then p.takeEntry
    else if ch == '?' && (p.inFlow || alone) then p.takeKey
    else if ch == ':' && (p.inFlow || alone) then p.takeValue
    else if ch == '*' then
      p.takeKeyPart fun c => (anchorName c.next).map fun (name, c) => (.reference name, c)
    else if ch == '&' then
      p.takeKeyPart fun c => (anchorName c.next).map fun (name, c) => (.anchor name, c)
    else if ch == '!' then p.takeKeyPart tagToken
    else if ch == '|' && !p.inFlow then p.takeBlockScalar false
    else if ch == '>' && !p.inFlow then p.takeBlockScalar true
    else if ch == '\'' || ch == '"' then
      p.takeKeyPart fun c => (quotedScalar (ch == '"') c).map fun (text, c) =>
        (.scalar text false, c)
    else if beginsPlain p.inFlow c then p.takePlain
    else .error .malformed

/-- The progress at the end of the text. -/
def toEnd : Nat → Progress → Except DocumentFault Progress
  | 0, _ => .error .malformed
  | fuel + 1, p => do
    let p ← (toNextToken (p.cursor.left + 1) p).expire
    -- a line that begins further left closes what it is not part of, before its first token
    let p := p.unwind p.cursor.column
    if p.cursor.peek.isNone then (p.unwind (-1)).dropKey else toEnd fuel (← p.takeToken)

end Progress

/-- The tokens of a text. A mark of byte order at its beginning is no part of it. -/
def Token.ofText (cs : List Char) : Except DocumentFault (List Token) :=
  let start := Progress.start cs
  let start := if start.cursor.isAt byteOrderMark then start.moveTo start.cursor.next else start
  (start.toEnd (cs.length + 1)).map fun p => tokensOf p.slots

end Verdict.Yaml
