import Verdict.Catalog.Layout
import Verdict.Files
import Verdict.Message.Provider

/-!
# Catalogs of templates

A catalog is a file that maps codes to templates. `validate` lists what is wrong with it, `load`
gives its templates or refuses it, and `apply` sets its templates in a provider. A catalog that is
refused leaves the provider as it is.

What a file says is for a reader to find out. A file that cannot be opened and one that the reader
finds malformed are issues; all else that the reader ends in is passed on as a fault.
-/

namespace Verdict.Catalog

/-- What is found at a path: a document, or the issue that stands in the way. -/
inductive Reading where
  | document (v : Value)
  | unreadable (issue : Issue)

/-- The issue that there is with a file as a whole. -/
def wholeIssue (path : Path) (message : String) : Issue := ⟨path.text, message, ""⟩

/-- What a reader finds in the file at a path. -/
def Reading.ofReader (path : Path) : Except ReaderFault Value → Except Fault Reading
  | .error (.malformed words) =>
    .ok (.unreadable (wholeIssue path ("YAML parse error: " ++ words)))
  | .error (.raised fault) => .error fault
  | .ok .null => .ok (.unreadable (wholeIssue path "File is empty or contains only whitespace"))
  | .ok v => .ok (.document v)

/-- Reads the file at a path. -/
def read (reader : DocumentReader) (files : Folder) (path : Path) : Except Fault Reading :=
  if path.text.toList.contains '\x00' then .error .pathWithNul
  else
    match files.read path with
    | .error problem =>
      .ok (.unreadable (wholeIssue path ("Cannot read file: " ++ problem.text path)))
    | .ok content => Reading.ofReader path (reader content)

/-- The issues of a document against the layout, in the order of their places. Their messages are
written before they are put in order, and their places after that. -/
def issuesOf (path : Path) (document : Value) : Except Fault (List Issue) := do
  let found := violations document
  Value.requireWritable (found.flatMap (·.quotes))
  let sorted ← inOrder found
  Value.requireWritable (sorted.flatMap (·.place))
  return sorted.map fun v => ⟨path.text, v.message, v.location⟩

/-- What is wrong with the catalog at a path. -/
def validate (reader : DocumentReader) (files : Folder) (path : Path) :
    Except Fault (List Issue) := do
  match ← read reader files path with
  | .unreadable issue => return [issue]
  | .document v => issuesOf path v

/-- The entries of the templates of a document, if it has a mapping of that name. -/
def templateEntries? : Value → Option (List (Value × Value))
  | .mapping entries =>
    match Value.lookup? (.text templatesKey) entries with
    | some (.mapping templates) => some templates
    | _ => none
  | _ => none

/-- The templates of entries. Keys and templates that are no text are taken as they stand in a
message. -/
def writeTemplates (entries : List (Value × Value)) : Except Fault (Table String) :=
  if Value.areWritableEntries entries then
    .ok (entries.foldl (fun t e => t.set e.1.display e.2.display) [])
  else .error .integerTooLong

/-- What loading gives: the records, and the answer or the fault. -/
structure Loaded (α : Type) where
  logs : List LogEvent
  answer : Except Fault α

/-- Refuses a catalog because of issues, with a record that tells the first. -/
def refused {α : Type} (path : Path) (issues : List Issue)
    (record : String → LogEvent) : Loaded α :=
  ⟨[record (issues.head?.map (·.message) |>.getD "")],
    .error (.catalogInvalid path.text issues)⟩

/-- The templates of the catalog at a path, without regard to the layout. -/
def loadUnchecked (reader : DocumentReader) (files : Folder) (path : Path) :
    Loaded (Table String) :=
  match read reader files path with
  | .error fault => ⟨[], .error fault⟩
  | .ok (.unreadable issue) => refused path [issue] (.catalogUnreadable path.text)
  | .ok (.document v) =>
    match (templateEntries? v).map writeTemplates with
    | none =>
      ⟨[], .error (.catalogInvalid path.text [wholeIssue path "Missing 'templates' mapping"])⟩
    | some (.error fault) => ⟨[], .error fault⟩
    | some (.ok templates) =>
      ⟨(templates.keys.filter (!Code.isKnown ·)).map (.customCode path.text), .ok templates⟩

/-- The templates of the catalog at a path. If asked for, the layout is checked first. -/
def load (reader : DocumentReader) (files : Folder) (path : Path) (checked : Bool) :
    Loaded (Table String) :=
  if checked then
    match validate reader files path with
    | .error fault => ⟨[], .error fault⟩
    | .ok [] => loadUnchecked reader files path
    | .ok issues => refused path issues (.catalogRefused path.text issues.length)
  else loadUnchecked reader files path

/-- The provider with the templates of a catalog set, and their number. -/
def apply (p : Provider) (reader : DocumentReader) (files : Folder) (path : Path)
    (checked : Bool) : Provider × Loaded Nat :=
  let loaded := load reader files path checked
  match loaded.answer with
  | .error fault => (p, ⟨loaded.logs, .error fault⟩)
  | .ok templates =>
    (p.setTemplates templates,
      ⟨loaded.logs ++ [.catalogApplied templates.length path.text], .ok templates.length⟩)

end Verdict.Catalog
