import Verdict.Fault
import Verdict.Text.Quoted
import Verdict.Value

/-!
# Files and paths

A `Path` is kept without empty parts and without parts that stay where they are; steps upwards are
kept, because they depend on what is there. A `Folder` holds the files below one folder, by the
parts of their paths. `Folder.open` walks a path from that folder: it gives the content of a file
or says why there is none.

Nothing is known of what lies outside of the folder but that it is there.

What a file says is left to a `DocumentReader`, which makes a value of its content.
-/

namespace Verdict

/-- A path in its shortest form that needs no look at the files. -/
structure Path where
  /-- What a path begins with that does not begin in the current folder. -/
  root : String
  parts : List String
deriving DecidableEq, Repr, Inhabited

namespace Path

/-- The texts between slashes. -/
def splitSlashes : List Char → List (List Char)
  | [] => [[]]
  | '/' :: rest => [] :: splitSlashes rest
  | c :: rest =>
    match splitSlashes rest with
    | [] => [[c]]
    | part :: parts => (c :: part) :: parts

/-- The path that a text writes. Two slashes at the front are a root of their own, any other number
is the one root. -/
def ofText (text : String) : Path :=
  let cs := text.toList
  let slashes := (cs.takeWhile (· == '/')).length
  let root := if slashes = 0 then "" else if slashes = 2 then "//" else "/"
  let parts := (splitSlashes cs).filter fun part => !part.isEmpty && part != ['.']
  ⟨root, parts.map String.ofList⟩

/-- The text of a path. -/
def text (p : Path) : String :=
  if p.root.isEmpty && p.parts.isEmpty then "." else p.root ++ "/".intercalate p.parts

end Path

/-- Why a file cannot be opened. -/
inductive FileProblem where
  | absent
  | notFolder
  | isFolder
  | nameTooLong
deriving DecidableEq, Repr, Inhabited

namespace FileProblem

/-- The number of the problem. -/
def number : FileProblem → Int
  | absent => 2
  | notFolder => 20
  | isFolder => 21
  | nameTooLong => 36

/-- The problem in words. -/
def words : FileProblem → String
  | absent => "No such file or directory"
  | notFolder => "Not a directory"
  | isFolder => "Is a directory"
  | nameTooLong => "File name too long"

/-- The problem with a path. -/
def text (problem : FileProblem) (path : Path) : String :=
  "[Errno " ++ Text.decimal problem.number ++ "] " ++ problem.words ++ ": " ++
    Text.quoted path.text

end FileProblem

/-- The files below a folder: the parts of their paths, and their contents. -/
abbrev Folder := List (List String × ByteArray)

namespace Folder

/-- The content of the file with the parts. -/
def file? (f : Folder) (parts : List String) : Option ByteArray := f.lookup parts

/-- Whether the parts lead to a folder. -/
def isFolder (f : Folder) (parts : List String) : Bool :=
  parts.isEmpty || f.any fun e => parts.isPrefixOf e.1 && e.1 ≠ parts

/-- The folder with a file written at a path. -/
def write (f : Folder) (path : Path) (content : ByteArray) : Folder :=
  f.filter (fun e => e.1 ≠ path.parts) ++ [(path.parts, content)]

/-- Where a walk has come to. -/
inductive Place where
  /-- In the folder with the parts. -/
  | inside (parts : List String)
  /-- Above the folder. -/
  | outside
  /-- On a file. -/
  | file (content : ByteArray)

/-- The longest name that a part of a path can have, in bytes. -/
def longestName : Nat := 255

/-- The longest path, in bytes. -/
def longestPath : Nat := 4095

/-- One step of a walk. -/
def step (f : Folder) (part : String) : Place → Except FileProblem Place
  | .file _ => .error .notFolder
  | .outside => if part = ".." then .ok .outside else .error .absent
  | .inside parts =>
    if part = ".." then .ok (if parts.isEmpty then .outside else .inside parts.dropLast)
    else if part.utf8ByteSize > longestName then .error .nameTooLong
    else
      let here := parts ++ [part]
      match f.file? here with
      | some content => .ok (.file content)
      | none => if f.isFolder here then .ok (.inside here) else .error .absent

/-- The content of the file at a path. -/
def read (f : Folder) (path : Path) : Except FileProblem ByteArray := do
  if path.text.utf8ByteSize > longestPath then throw .nameTooLong
  let start : Place := if path.root.isEmpty then .inside [] else .outside
  match ← path.parts.foldlM (fun place part => f.step part place) start with
  | .file content => return content
  | _ => throw .isFolder

end Folder

/-- The text with all line ends unified: a carriage return, with or without a line feed after it,
is a line feed. -/
def unifyLineEnds : List Char → List Char
  | [] => []
  | '\r' :: '\n' :: rest => '\n' :: unifyLineEnds rest
  | c :: rest => (if c = '\r' then '\n' else c) :: unifyLineEnds rest

/-- The text of a file. The bytes must be well-formed. -/
def textOfBytes (content : ByteArray) : Except Fault String :=
  match String.fromUTF8? content with
  | some text => .ok (String.ofList (unifyLineEnds text.toList))
  | none => .error .undecodable

/-- Why a reader makes no document of the content of a file. -/
inductive ReaderFault where
  /-- The content is not well-formed, in the words of the reader. -/
  | malformed (words : String)
  /-- Reading the content ends in a fault of another sort. -/
  | raised (fault : Fault)
deriving DecidableEq, Repr, Inhabited

/-- What makes documents of the contents of files. -/
abbrev DocumentReader := ByteArray → Except ReaderFault Value

end Verdict
