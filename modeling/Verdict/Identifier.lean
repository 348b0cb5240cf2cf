/-!
# Identifiers

An identifier says which element was validated: its kind says how the text is to be read.
-/

namespace Verdict

/-- How an identifier addresses the element. -/
inductive IdentifierKind where
  | field
  | path
  | index
  | custom
deriving DecidableEq, Repr, Inhabited

namespace IdentifierKind

/-- The kinds in order. -/
def all : List IdentifierKind := [field, path, index, custom]

/-- The word for a kind in a record. -/
def text : IdentifierKind → String
  | field => "field"
  | path => "path"
  | index => "index"
  | custom => "custom"

/-- The name of a kind. -/
def name : IdentifierKind → String
  | field => "FIELD"
  | path => "PATH"
  | index => "INDEX"
  | custom => "CUSTOM"

end IdentifierKind

/-- A reference to the validated element. -/
structure Identifier where
  kind : IdentifierKind
  text : String
deriving DecidableEq, Repr, Inhabited

namespace Identifier

/-- A field by its name. -/
def ofField (text : String) : Identifier := ⟨.field, text⟩

/-- An element by its path. -/
def ofPath (text : String) : Identifier := ⟨.path, text⟩

/-- An element by its index. -/
def ofIndex (text : String) : Identifier := ⟨.index, text⟩

/-- An element by a reference of the caller's own. -/
def ofCustom (text : String) : Identifier := ⟨.custom, text⟩

/-- An element of any kind. -/
def ofKind : IdentifierKind → String → Identifier
  | .field => ofField
  | .path => ofPath
  | .index => ofIndex
  | .custom => ofCustom

end Identifier

/-- The text for an identifier that may be missing. -/
def identifierText : Option Identifier → String
  | some id => id.text
  | none => "None"

end Verdict
