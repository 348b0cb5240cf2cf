import Verdict.Yaml.Scalar.Implicit
import Verdict.Yaml.Token

/-!
# Nodes

A document is a tree of scalars, sequences and mappings. `Node.ofTokens` reads the tree off the
tokens; a reference stands for the node that its anchor names, which has to be complete by then.
An anchor names one node only.
-/

namespace Verdict.Yaml

/-- A tree of scalars. -/
inductive Node where
  | scalar (kind : ScalarKind) (text : String)
  | sequence (items : List Node)
  | mapping (entries : List (Node × Node))
deriving Inhabited

/-! ## Tags -/

/-- Tag handles, and what they stand for. -/
abbrev TagHandles := List (String × String)

/-- What the tags of the standard kinds begin with. -/
def standardTag : String := "tag:yaml.org,2002:"

/-- The handles that need no directive. -/
def defaultHandles : TagHandles := [("!", "!"), ("!!", standardTag)]

/-- The kinds of scalars by the names of their tags. -/
def scalarTags : List (String × ScalarKind) :=
  [("null", .null), ("bool", .truth), ("int", .integer), ("float", .real),
   ("timestamp", .timestamp), ("merge", .merge), ("value", .default), ("str", .text)]

/-- The full tag of a handle and a suffix; the handle has to be known. -/
def fullTag (handles : TagHandles) (handle : Option String) (suffix : String) :
    Except DocumentFault String :=
  match handle with
  | none => .ok suffix
  | some handle =>
    match handles.lookup handle with
    | some stands => .ok (stands ++ suffix)
    | none => .error .malformed

/-- What a scalar is. Without a tag, quotes make it text; the tag without a name lets the spelling
decide. -/
def scalarKind (tag : Option String) (text : String) (plain : Bool) : ScalarKind :=
  match tag with
  | none => if plain then .ofPlain text else .text
  | some tag =>
    if tag = "!" then .ofPlain text
    else ((scalarTags.find? fun t => standardTag ++ t.1 == tag).map (·.2)).getD .unknown

/-- A collection under a tag, which must be that of its kind if it names one. -/
def taggedAs (name : String) (tag : Option String) (node : Node) : Except DocumentFault Node :=
  match tag with
  | none => .ok node
  | some tag => if tag = "!" || tag = standardTag ++ name then .ok node else .error .malformed

/-- A scalar that is not written. -/
def Node.missing : Node := .scalar .null ""

/-! ## The tokens that are left -/

/-- The tokens that are left, and the anchors that have been seen. -/
structure Reader where
  tokens : List Token
  /-- The names of all anchors so far, also those whose nodes are not complete. -/
  names : List String
  anchors : List (String × Node)

namespace Reader

/-- The reader behind the next token. -/
def next (r : Reader) : Reader := { r with tokens := r.tokens.tail }

/-- Whether the next token is one of those. -/
def isAt (r : Reader) (tokens : List Token) : Bool := r.tokens.head?.any tokens.contains

/-- The anchor that comes next, if one does. -/
def takeAnchor (r : Reader) : Option String × Reader :=
  match r.tokens with
  | .anchor name :: _ => (some name, r.next)
  | _ => (none, r)

/-- The full tag that comes next, if one does. -/
def takeTag (handles : TagHandles) (r : Reader) :
    Except DocumentFault (Option String × Reader) :=
  match r.tokens with
  | .tag handle suffix :: _ => (fullTag handles handle suffix).map fun tag => (some tag, r.next)
  | _ => .ok (none, r)

/-- The anchor and the tag of a node, in either order. -/
def properties (handles : TagHandles) (r : Reader) :
    Except DocumentFault (Option String × Option String × Reader) := do
  let (before, r) := r.takeAnchor
  let (tag, r) ← r.takeTag handles
  let (after, r) := if before.isNone && tag.isSome then r.takeAnchor else (none, r)
  return (before.or after, tag, r)

/-- The reader after an anchor; it must be new. -/
def declare (r : Reader) : Option String → Except DocumentFault Reader
  | none => .ok r
  | some name =>
    if r.names.contains name then .error .malformed
    else .ok { r with names := name :: r.names }

/-- The reader after the node of an anchor is complete. -/
def complete (r : Reader) (anchor : Option String) (node : Node) : Reader :=
  match anchor with
  | none => r
  | some name => { r with anchors := (name, node) :: r.anchors }

end Reader

/-! ## Reading the tree -/

/-- Where a node stands, which decides the collections that may be there. -/
inductive Position where
  /-- Between brackets. -/
  | flow
  | block
  /-- In a block mapping, where a sequence needs no deeper indentation. -/
  | entry
deriving DecidableEq

mutual

/-- The node that comes next. -/
def readNode (handles : TagHandles) (position : Position) :
    Nat → Reader → Except DocumentFault (Node × Reader)
  | 0, _ => .error .malformed
  | fuel + 1, r =>
    match r.tokens with
    | .reference name :: _ =>
      match r.anchors.lookup name with
      | some node => .ok (node, r.next)
      | none => .error .malformed
    | _ => do
      let (anchor, tag, r) ← r.properties handles
      let r ← r.declare anchor
      let (node, r) ← readContent handles position (anchor.isSome || tag.isSome) tag fuel r
      return (node, r.complete anchor node)

/-- The node that comes next behind its anchor and its tag. If it has either, it need not be
written. -/
def readContent (handles : TagHandles) (position : Position) (marked : Bool)
    (tag : Option String) : Nat → Reader → Except DocumentFault (Node × Reader)
  | 0, _ => .error .malformed
  | fuel + 1, r =>
    let unwritten := fun (_ : Unit) =>
      if marked then .ok (.scalar (scalarKind tag "" true) "", r) else .error .malformed
    match r.tokens with
    | .scalar text plain :: _ => .ok (.scalar (scalarKind tag text plain) text, r.next)
    | .flowSequence :: _ => do
      let (items, r) ← readFlowItems handles true fuel r.next
      return (← taggedAs "seq" tag (.sequence items), r)
    | .flowMapping :: _ => do
      let (entries, r) ← readFlowEntries handles true fuel r.next
      return (← taggedAs "map" tag (.mapping entries), r)
    | .blockSequence :: _ =>
      if position = .flow then unwritten ()
      else do
        let (items, r) ← readItems handles fuel r.next
        return (← taggedAs "seq" tag (.sequence items), r)
    | .blockMapping :: _ =>
      if position = .flow then unwritten ()
      else do
        let (entries, r) ← readEntries handles fuel r.next
        return (← taggedAs "map" tag (.mapping entries), r)
    | .entry :: _ =>
      if position = .entry then do
        let (items, r) ← readFlushItems handles fuel r
        return (← taggedAs "seq" tag (.sequence items), r)
      else unwritten ()
    | _ => unwritten ()

/-- The node that comes next, which is missing if one of the tokens comes instead. -/
def readNodeUnless (handles : TagHandles) (position : Position) (stops : List Token) :
    Nat → Reader → Except DocumentFault (Node × Reader)
  | 0, _ => .error .malformed
  | fuel + 1, r =>
    if r.isAt stops then .ok (.missing, r) else readNode handles position fuel r

/-- The value of an entry, which is missing if there is no colon or one of the tokens comes. -/
def readEntryValue (handles : TagHandles) (position : Position) (stops : List Token) :
    Nat → Reader → Except DocumentFault (Node × Reader)
  | 0, _ => .error .malformed
  | fuel + 1, r =>
    if r.isAt [.value] then readNodeUnless handles position stops fuel r.next
    else .ok (.missing, r)

/-- The items of an indented block sequence. -/
def readItems (handles : TagHandles) :
    Nat → Reader → Except DocumentFault (List Node × Reader)
  | 0, _ => .error .malformed
  | fuel + 1, r =>
    match r.tokens with
    | .entry :: _ => do
      let (item, r) ← readNodeUnless handles .block [.entry, .blockEnd] fuel r.next
      let (items, r) ← readItems handles fuel r
      return (item :: items, r)
    | .blockEnd :: _ => .ok ([], r.next)
    | _ => .error .malformed

/-- The items of a block sequence that is not indented. -/
def readFlushItems (handles : TagHandles) :
    Nat → Reader → Except DocumentFault (List Node × Reader)
  | 0, _ => .error .malformed
  | fuel + 1, r =>
    match r.tokens with
    | .entry :: _ => do
      let (item, r) ← readNodeUnless handles .block [.entry, .key, .value, .blockEnd] fuel r.next
      let (items, r) ← readFlushItems handles fuel r
      return (item :: items, r)
    | _ => .ok ([], r)

/-- The entries of a block mapping. -/
def readEntries (handles : TagHandles) :
    Nat → Reader → Except DocumentFault (List (Node × Node) × Reader)
  | 0, _ => .error .malformed
  | fuel + 1, r =>
    match r.tokens with
    | .key :: _ => do
      let (key, r) ← readNodeUnless handles .entry [.key, .value, .blockEnd] fuel r.next
      let (value, r) ← readEntryValue handles .entry [.key, .value, .blockEnd] fuel r
      let (entries, r) ← readEntries handles fuel r
      return ((key, value) :: entries, r)
    | .blockEnd :: _ => .ok ([], r.next)
    | _ => .error .malformed

/-- The items of a bracketed sequence; an entry of a mapping among them is a mapping of its own. -/
def readFlowItems (handles : TagHandles) (first : Bool) :
    Nat → Reader → Except DocumentFault (List Node × Reader)
  | 0, _ => .error .malformed
  | fuel + 1, r =>
    if r.isAt [.flowSequenceEnd] then .ok ([], r.next)
    else if !first && !r.isAt [.comma] then .error .malformed
    else do
      let r := if first then r else r.next
      if r.isAt [.flowSequenceEnd] then return ([], r.next)
      let (item, r) ←
        if r.isAt [.key] then do
          let (key, r) ←
            readNodeUnless handles .flow [.value, .comma, .flowSequenceEnd] fuel r.next
          let (value, r) ← readEntryValue handles .flow [.comma, .flowSequenceEnd] fuel r
          pure (Node.mapping [(key, value)], r)
        else readNode handles .flow fuel r
      let (items, r) ← readFlowItems handles false fuel r
      return (item :: items, r)

/-- The entries of a bracketed mapping; one without a colon has no value. -/
def readFlowEntries (handles : TagHandles) (first : Bool) :
    Nat → Reader → Except DocumentFault (List (Node × Node) × Reader)
  | 0, _ => .error .malformed
  | fuel + 1, r =>
    if r.isAt [.flowMappingEnd] then .ok ([], r.next)
    else if !first && !r.isAt [.comma] then .error .malformed
    else do
      let r := if first then r else r.next
      if r.isAt [.flowMappingEnd] then return ([], r.next)
      let (entry, r) ←
        if r.isAt [.key] then do
          let (key, r) ←
            readNodeUnless handles .flow [.value, .comma, .flowMappingEnd] fuel r.next
          let (value, r) ← readEntryValue handles .flow [.comma, .flowMappingEnd] fuel r
          pure ((key, value), r)
        else do
          let (key, r) ← readNode handles .flow fuel r
          pure ((key, Node.missing), r)
      let (entries, r) ← readFlowEntries handles false fuel r
      return (entry :: entries, r)

end

/-! ## Documents -/

/-- The handles that directives add; each may be said once, and only the first version is known.
Also the tokens behind the directives. -/
def readDirectives (versioned : Bool) (handles : TagHandles) :
    List Token → Except DocumentFault (TagHandles × List Token)
  | .version major :: rest =>
    if versioned || major ≠ 1 then .error .malformed else readDirectives true handles rest
  | .handle name stands :: rest =>
    if (handles.lookup name).isSome then .error .malformed
    else readDirectives versioned (handles ++ [(name, stands)]) rest
  | .directive :: rest => readDirectives versioned handles rest
  | tokens => .ok (handles, tokens)

/-- Whether a token belongs to what is around a document. -/
def Token.isOutside : Token → Bool
  | .version _ | .handle _ _ | .directive | .documentStart | .documentEnd => true
  | _ => false

/-- The node of the tokens, under the handles. -/
def readDocument (handles : TagHandles) (tokens : List Token) :
    Except DocumentFault (Node × List Token) :=
  (readNode handles .block (4 * (tokens.length + 2)) ⟨tokens, [], []⟩).map fun (node, r) =>
    (node, r.tokens)

/-- The only document among the tokens, if there is one. A document without marks around it cannot
be empty. -/
def Node.ofTokens? (tokens : List Token) : Except DocumentFault (Option Node) := do
  match tokens with
  | [] => return none
  | first :: _ =>
    let (node, rest) ←
      if first.isOutside && first ≠ .documentEnd then do
        let (handles, rest) ← readDirectives false [] tokens
        let handles := handles ++ defaultHandles.filter fun h => (handles.lookup h.1).isNone
        match rest with
        | .documentStart :: rest =>
          if rest.head?.all Token.isOutside then pure (Node.missing, rest)
          else readDocument handles rest
        | _ => throw .malformed
      else readDocument defaultHandles tokens
    if rest.all (· == .documentEnd) then return some node else throw .malformed

end Verdict.Yaml
