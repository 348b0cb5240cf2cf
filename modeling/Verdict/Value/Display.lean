import Verdict.Calendar.Written
import Verdict.Fault
import Verdict.Number.Written
import Verdict.Text.Quoted
import Verdict.Value

/-!
# Values in text

`Value.display` is how a value stands in a message: text as it is, a date or a moment in the
international form. `Value.term` is how it stands inside another value: text is quoted, and dates
are terms, so that the parts of a list can be told apart.

A value with an integer in it that has too many digits cannot be written at all. `Value.display` and
`Value.term` tell what would be written; where a value comes from outside, `Value.isWritable` is
asked first.
-/

namespace Verdict

open Text

/-- Texts between an opening and a closing mark, set apart by commas. -/
def enclosed (first last : String) (items : List String) : String :=
  first ++ ", ".intercalate items ++ last

/-- The parts of a tuple; a single part is followed by a comma. -/
def enclosedTuple : List String → String
  | [item] => "(" ++ item ++ ",)"
  | items => enclosed "(" ")" items

namespace Value

mutual

/-- The value as a term. -/
def term : Value → String
  | .null => "None"
  | .bool b => if b then "True" else "False"
  | .int i => decimal i
  | .float x => x.text
  | .text s => quoted s
  | .list items => enclosed "[" "]" (terms items)
  | .tuple items => enclosedTuple (terms items)
  | .mapping entries => enclosed "\x7b" "\x7d" (entryTerms entries)
  | .date d => d.term
  | .moment m => m.term

/-- Values as terms. -/
def terms : List Value → List String
  | [] => []
  | v :: rest => term v :: terms rest

/-- Entries as terms: the key, a colon and the value. -/
def entryTerms : List (Value × Value) → List String
  | [] => []
  | (k, v) :: rest => (term k ++ ": " ++ term v) :: entryTerms rest

end

/-- The value as it stands in a message. -/
def display : Value → String
  | .text s => s
  | .date d => d.text
  | .moment m => m.display
  | v => v.term

mutual

/-- Whether the value can be written: no integer in it has too many digits. -/
def isWritable : Value → Bool
  | .int i => isShort i
  | .list items => areWritable items
  | .tuple items => areWritable items
  | .mapping entries => areWritableEntries entries
  | _ => true

/-- Whether all the values can be written. -/
def areWritable : List Value → Bool
  | [] => true
  | v :: rest => isWritable v && areWritable rest

/-- Whether all the keys and values of entries can be written. -/
def areWritableEntries : List (Value × Value) → Bool
  | [] => true
  | (k, v) :: rest => isWritable k && isWritable v && areWritableEntries rest

end

/-- Requires that all the values can be written. -/
def requireWritable (vs : List Value) : Except Fault Unit :=
  if areWritable vs then .ok () else .error .integerTooLong

end Value

end Verdict
