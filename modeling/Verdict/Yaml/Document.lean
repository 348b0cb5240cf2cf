import Verdict.Files
import Verdict.Yaml.Node
import Verdict.Yaml.Scalar.Meaning

/-!
# Documents

`Document.read` gives the value of a document. Merged mappings come before the entries of the
mapping that merges them, and a later entry takes the place of an earlier one with the same key.

A document is worked off level by level, so of several faults the one that is least deep is
reported, and the first among those.

`Document.reader` reads files in this way. It is one reader among many: it decodes a file to the end
before it looks at the first character, and does not say what it finds malformed, or where.
-/

namespace Verdict.Yaml

/-- A tree of scalars without merging. -/
inductive Tree where
  | scalar (kind : ScalarKind) (text : String)
  | sequence (items : List Tree)
  | mapping (entries : List (Tree × Tree))
  /-- A mapping that merges something else than mappings. -/
  | broken
deriving Inhabited

namespace Tree

/-- The entries that a value brings into the mapping that merges it: those of a mapping, or those of
a list of mappings, the last of them first. -/
def mergedEntries? : Tree → Option (List (Tree × Tree))
  | mapping entries => some entries
  | sequence items => (items.mapM entriesOf?).map fun parts => parts.reverse.flatten
  | _ => none
where
  /-- The entries of a mapping. -/
  entriesOf? : Tree → Option (List (Tree × Tree))
    | mapping entries => some entries
    | _ => none

/-- Whether the tree is the key for merging. -/
def isMerge : Tree → Bool
  | scalar .merge _ => true
  | _ => false

/-- A mapping with everything merged that is to be merged. -/
def ofEntries (entries : List (Tree × Tree)) : Tree :=
  match (entries.filter (·.1.isMerge)).mapM (·.2.mergedEntries?) with
  | some merged => mapping (merged.flatten ++ entries.filter (!·.1.isMerge))
  | none => broken

mutual

/-- The tree of a node. -/
def ofNode : Node → Tree
  | .scalar kind text => scalar kind text
  | .sequence items => sequence (ofNodes items)
  | .mapping entries => ofEntries (ofPairs entries)

/-- The trees of nodes. -/
def ofNodes : List Node → List Tree
  | [] => []
  | node :: rest => ofNode node :: ofNodes rest

/-- The trees of the entries of a mapping. -/
def ofPairs : List (Node × Node) → List (Tree × Tree)
  | [] => []
  | (key, value) :: rest => (ofNode key, ofNode value) :: ofPairs rest

end

/-- Something, or a fault with its level. -/
abbrev Leveled (α : Type) := Except (Nat × DocumentFault) α

/-- Two parts together; of two faults the one that is less deep. -/
def Leveled.both {α β : Type} (a : Leveled α) (b : Leveled β) : Leveled (α × β) :=
  match a, b with
  | .ok x, .ok y => .ok (x, y)
  | .error e, .ok _ => .error e
  | .ok _, .error f => .error f
  -- of two faults on one level the first wins
  | .error e, .error f => .error (if f.1 < e.1 then f else e)

/-- What a scalar in a collection at a level means. -/
def scalarAt (level : Nat) (kind : ScalarKind) (text : String) : Leveled Value :=
  match kind.value text with
  | .ok value => .ok value
  | .error fault => .error (level, fault)

/-- The key at a level: a scalar, and the key of a default value is text. -/
def keyAt (level : Nat) : Tree → Leveled Value
  | scalar .default text => .ok (.text text)
  | scalar kind text => scalarAt level kind text
  | _ => .error (level, .malformed)

mutual

/-- The value of a tree in a collection at a level. -/
def valueAt (level : Nat) : Tree → Leveled Value
  | scalar kind text => scalarAt level kind text
  | sequence items => (itemsAt (level + 1) items).map .list
  | mapping entries => (entriesAt (level + 1) entries).map Value.ofEntries
  | broken => .error (level + 1, .malformed)

/-- The values of the items of a sequence at a level. -/
def itemsAt (level : Nat) : List Tree → Leveled (List Value)
  | [] => .ok []
  | item :: rest =>
    (Leveled.both (valueAt level item) (itemsAt level rest)).map fun (v, vs) => v :: vs

/-- The entries of a mapping at a level. -/
def entriesAt (level : Nat) : List (Tree × Tree) → Leveled (List (Value × Value))
  | [] => .ok []
  | (key, value) :: rest =>
    let entry := Leveled.both (keyAt level key) (valueAt level value)
    (Leveled.both entry (entriesAt level rest)).map fun (e, es) => e :: es

end

end Tree

/-- Whether a document may hold the character. -/
def isPrintableChar (c : Char) : Bool :=
  let n := c.toNat
  n = 9 || n = 10 || n = 13 || (32 ≤ n && n ≤ 126) || n = 0x85 ||
    (0xa0 ≤ n && n ≤ 0xfffd) || 0x10000 ≤ n

/-- The value of a document; one that is empty has the value nothing. -/
def Document.read (text : String) : Except DocumentFault Value := do
  let cs := text.toList
  if !cs.all isPrintableChar then throw .malformed
  match ← Node.ofTokens? (← Token.ofText cs) with
  | none => return .null
  | some node =>
    match (Tree.ofNode node).valueAt 0 with
    | .ok value => return value
    | .error (_, fault) => throw fault

/-- The reader of documents in files. -/
def Document.reader : DocumentReader := fun content =>
  match textOfBytes content with
  | .error fault => .error (.raised fault)
  | .ok text =>
    match Document.read text with
    | .ok v => .ok v
    | .error .malformed => .error (.malformed "the text is no document")
    | .error (.refused fault) => .error (.raised fault)

end Verdict.Yaml
