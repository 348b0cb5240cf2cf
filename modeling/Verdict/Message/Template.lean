import Verdict.Parameter
import Verdict.Value.Display

/-!
# Message templates

A template is text with slots: a name between braces stands for the value of that parameter. The
name is everything up to the next closing brace and may be empty; an opening brace without a
closing one after it is plain text.

`Segment.compile` splits a template into its segments, `Segment.write` puts segments together
again, and `Segment.Normal` says which lists of segments are split forms: no text is empty or next
to another text, no name holds a closing brace, and an opening brace stands in a text only if the
text ends the template and no closing brace follows it.
-/

namespace Verdict

/-- One piece of a template. -/
inductive Segment where
  /-- Text that is copied. -/
  | text (content : String)
  /-- A place for the value of a parameter. -/
  | slot (name : String)
deriving DecidableEq, Repr, Inhabited

namespace Segment

/-- The segment for the text read so far, last character first; nothing for no text. -/
def flush (read : List Char) : List Segment :=
  if read.isEmpty then [] else [.text (String.ofList read.reverse)]

/-- The segments of the characters to come. The first argument is the text read since the last
slot, last character first; the second, within braces, the name read so far, in the same order. -/
def scan (read : List Char) : Option (List Char) → List Char → List Segment
  | none, [] => flush read
  | some name, [] => flush (name ++ '{' :: read)
  | none, c :: rest => if c = '{' then scan read (some []) rest else scan (c :: read) none rest
  | some name, c :: rest =>
    if c = '}' then flush read ++ .slot (String.ofList name.reverse) :: scan [] none rest
    else scan read (some (c :: name)) rest

/-- The segments of a template. -/
def compile (template : String) : List Segment := scan [] none template.toList

/-- The characters of a segment in a template. -/
def chars : Segment → List Char
  | .text content => content.toList
  | .slot name => '{' :: (name.toList ++ ['}'])

/-- A segment in short: what it is, and its text in quotes. -/
def shown : Segment → String
  | .text content => "Segment(TEXT, " ++ Text.quoted content ++ ")"
  | .slot name => "Segment(PLACEHOLDER, " ++ Text.quoted name ++ ")"

/-- The template that the segments write. -/
def write (segments : List Segment) : String := String.ofList (segments.flatMap chars)

/-- Whether the segment is text. -/
def isText : Segment → Bool
  | .text _ => true
  | .slot _ => false

/-- Whether an opening brace is followed by a closing one. -/
def closes : List Char → Bool
  | [] => false
  | c :: rest => (c = '{' && rest.contains '}') || closes rest

/-- The segments are those of some template. -/
def Normal : List Segment → Prop
  | [] => True
  | .slot name :: rest => '}' ∉ name.toList ∧ Normal rest
  | [.text content] => content.toList ≠ [] ∧ closes content.toList = false
  | .text content :: rest =>
    content.toList ≠ [] ∧ '{' ∉ content.toList ∧ (rest.head?.map isText) = some false ∧ Normal rest

/-- The name of a slot. -/
def slotName? : Segment → Option String
  | .text _ => none
  | .slot name => some name

/-- The text of a segment under given parameters. A parameter that is missing or nothing shows
nothing. -/
def fill (parameters : Parameters) : Segment → String
  | .text content => content
  | .slot name =>
    match parameters.get? name with
    | none => ""
    | some .null => ""
    | some value => value.display

/-- The message that segments give under given parameters. -/
def render (segments : List Segment) (parameters : Parameters) : String :=
  String.join (segments.map (fill parameters))

end Segment

/-- The names after the given ones in order of first appearance, each once. -/
def collectNames (seen : List String) : List Segment → List String
  | [] => seen
  | s :: rest =>
    match s.slotName? with
    | none => collectNames seen rest
    | some name =>
      if name ∈ seen then collectNames seen rest else collectNames (seen ++ [name]) rest

/-- The names of the slots of a template, in order of first appearance. -/
def slotNames (template : String) : List String := collectNames [] (Segment.compile template)

end Verdict
