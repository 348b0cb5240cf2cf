import Verdict.Value.Content
import Verdict.Value.Display

/-!
# The layout of a catalog

A catalog is a mapping with the entry `templates` and perhaps the entry `description` and no others.
The description is text. The templates are a mapping from dotted codes to text.

`violations` lists what a document does against the layout, each with the place in the document and
in the words of the validator of schemas that checks it. The schema is the layout above; what the
validator makes of it is assumed: that it finds every violation once, in this order, with the keys
of the document as the place, and that it looks at the form of a key only if this is text. `inOrder`
sorts the list by place; places whose keys have no order cannot be sorted.
-/

namespace Verdict.Catalog

/-- Something in a document that is against the layout. -/
structure Violation where
  /-- The keys that lead to the place. -/
  place : List Value
  /-- The values that the message shows. -/
  quotes : List Value
  message : String
deriving Inhabited

/-- The key of the templates. -/
def templatesKey : String := "templates"

/-- The key of the description. -/
def descriptionKey : String := "description"

/-- Whether the character can stand in a part of a code. -/
def isCodeChar (c : Char) : Bool :=
  ('A' ≤ c && c ≤ 'Z') || ('a' ≤ c && c ≤ 'z') || ('0' ≤ c && c ≤ '9') || c == '_'

/-- The texts between dots. -/
def splitDots : List Char → List (List Char)
  | [] => [[]]
  | '.' :: rest => [] :: splitDots rest
  | c :: rest =>
    match splitDots rest with
    | [] => [[c]]
    | part :: parts => (c :: part) :: parts

/-- Whether the characters are a dotted code: two or more parts that are not empty. -/
def isDotted (cs : List Char) : Bool :=
  let parts := splitDots cs
  2 ≤ parts.length && parts.all fun part => !part.isEmpty && part.all isCodeChar

/-- Whether the layout takes the key of a template: a dotted code, behind which one line feed is not
seen. -/
def acceptsKey (key : String) : Bool :=
  let cs := key.toList
  isDotted cs || (cs.getLast? == some '\n' && isDotted cs.dropLast)

/-- How the layout writes its rule for keys. -/
def keyRule : String := "^[A-Za-z0-9_]+(\\.[A-Za-z0-9_]+)+$"

/-- A value that should be text. -/
def textViolations (place : List Value) : Value → List Violation
  | .text _ => []
  | v => [⟨place, [v], v.term ++ " is not of type 'string'"⟩]

/-- A value that should be a mapping. -/
def mappingViolations (place : List Value) : Value → List Violation
  | .mapping _ => []
  | v => [⟨place, [v], v.term ++ " is not of type 'object'"⟩]

/-- A key of the templates that should be a dotted code. Only text is held to that. -/
def keyViolations (place : List Value) : Value → List Violation
  | .text key =>
    if acceptsKey key then []
    else [⟨place, [.text key], Text.quoted key ++ " does not match " ++ Text.quoted keyRule⟩]
  | _ => []

/-- The templates: their keys first, then their texts. -/
def templatesViolations (place : List Value) : Value → List Violation
  | .mapping entries =>
    entries.flatMap (fun e => keyViolations place e.1) ++
      entries.flatMap fun e => textViolations (place ++ [e.1]) e.2
  | v => mappingViolations place v

/-- The keys of a catalog that the layout does not know. -/
def unknownKeys (entries : List (Value × Value)) : List Value :=
  (entries.map (·.1)).filter fun key =>
    !key.equals (.text descriptionKey) && !key.equals (.text templatesKey)

/-- Whether a text comes no later than another. -/
def isNoLater (a b : Value) : Bool := compareChars a.display.toList b.display.toList != .gt

/-- The violation of unknown keys, which are named in the order of their texts. -/
def unknownViolations (keys : List Value) : List Violation :=
  if keys.isEmpty then []
  else
    let names := (keys.mergeSort isNoLater).map Value.term
    let verb := if keys.length = 1 then "was" else "were"
    [⟨[], keys, "Additional properties are not allowed (" ++ ", ".intercalate names ++ " " ++
      verb ++ " unexpected)"⟩]

/-- The violations at the entry under a key, if there is one. -/
def entryViolations (key : String) (check : List Value → Value → List Violation)
    (entries : List (Value × Value)) : List Violation :=
  match Value.lookup? (.text key) entries with
  | some value => check [.text key] value
  | none => []

/-- What a document does against the layout. -/
def violations : Value → List Violation
  | .mapping entries =>
    let missing := if (Value.lookup? (.text templatesKey) entries).isNone then
      [⟨[], [], "'templates' is a required property"⟩] else []
    missing ++ unknownViolations (unknownKeys entries) ++
      entryViolations descriptionKey textViolations entries ++
      entryViolations templatesKey templatesViolations entries
  | v => mappingViolations [] v

/-- Violations in order with one more put behind all that do not come later. -/
def insertInOrder (x : Violation) : List Violation → Except Fault (List Violation)
  | [] => .ok [x]
  | y :: rest => do
    -- an equal place comes behind, so the order is stable
    if ← Value.related .below (.list x.place) (.list y.place) then return x :: y :: rest
    else return y :: (← insertInOrder x rest)

/-- The violations in the order of their places, those of one place as they come. -/
def inOrder (vs : List Violation) : Except Fault (List Violation) :=
  vs.foldlM (fun sorted v => insertInOrder v sorted) []

/-- The place of a violation in one line. -/
def Violation.location (v : Violation) : String := "/".intercalate (v.place.map Value.display)

end Verdict.Catalog
