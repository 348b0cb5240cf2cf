import Verdict.Check
import Verdict.Pattern.Reading

/-!
# Checks for text

Lengths are those of the text without the blank characters around it. All checks but that for
blank text let nothing pass.
-/

namespace Verdict

open Text

/-- What a text is to match: a value, which should be the text of a pattern, or a pattern. -/
inductive PatternSource where
  | value (v : Value)
  | pattern (p : Pattern)
deriving Inhabited

/-- The checks for text, with the arguments that they are asked for. -/
inductive TextCheck where
  | notBlank
  | minLength (length : Value)
  | maxLength (length : Value)
  | exactLength (length : Value)
  | matchesPattern (source : PatternSource)
  | oneOf (allowed : Value) (ignoreCase : Bool)
  | startsWith (first : Value)
  | endsWith (last : Value)
  | contains (part : Value)
  | numeric
  | alphanumeric
deriving Inhabited

/-- The number of characters of a text without the blank ones around it. -/
def strippedLength (s : String) : Nat := (stripChars s.toList).length

/-- The stripped length of a value that is text. -/
def Value.strippedLength? (v : Value) : Except Fault Value :=
  v.asText.map fun s => .int (strippedLength s)

/-- Whether all characters of a text that has some are of a kind. -/
def isAll (p : Char → Bool) (s : String) : Bool := !s.toList.isEmpty && s.toList.all p

/-- Whether the character is an unaccented letter or one of the ten digits. -/
def isPlainAlphanumeric (c : Char) : Bool :=
  Pattern.isAsciiLetter c || (48 ≤ c.toNat && c.toNat ≤ 57)

/-- The text of a value, where any other value is of the wrong kind. -/
def Value.textOnly : Value → Except Fault String
  | .text s => .ok s
  | _ => .error .unsupported

/-- Whether the first characters are those at the end of the second. -/
def endsChars (part whole : List Char) : Bool := part.reverse.isPrefixOf whole.reverse

/-- Whether a comparison holds for one of the texts; each has to be text, up to the first that it
holds for. -/
def anyText (compare : String → Bool) : List Value → Except Fault Bool
  | [] => .ok false
  | v :: rest => do
    let s ← v.textOnly
    if compare s then return true else anyText compare rest

/-- Whether a comparison holds for a text, or for one of a tuple of texts. -/
def anyOfTexts (compare : String → Bool) : Value → Except Fault Bool
  | .text s => .ok (compare s)
  | .tuple items => anyText compare items
  | _ => .error .unsupported

/-- The pattern that a text is to match. -/
def PatternSource.pattern? : PatternSource → Except Fault Pattern
  | .value .null => .error .patternMissing
  | .value (.text s) => Pattern.read s false
  | .value _ => .error .missingMember
  | .pattern p => .ok p

/-- The texts in the form that forgets case. -/
def foldAll : List Value → Except Fault (List String)
  | [] => .ok []
  | v :: rest => do
    let s ← v.asText
    return fold s :: (← foldAll rest)

namespace TextCheck

/-- A check of the stripped length against a limit. -/
def lengthCheck (code : Code) (key : String) (limit : Value) (aliases : List String)
    (compare : Value → Value → Except Fault Bool) : Except Fault Check :=
  Check.accept ⟨code, .bound key limit true aliases, true,
    fun v => do compare (← v.strippedLength?) limit, fun _ => []⟩

/-- A check against a text that has to be given. -/
def partCheck (code : Code) (key : String) (part : Value) (test : Predicate) :
    Except Fault Check := do
  requireLimit key part false
  return ⟨code, .reference key part false, true, test, fun _ => []⟩

/-- The check, if its arguments are acceptable. -/
def build : TextCheck → Except Fault Check
  | notBlank =>
    .ok ⟨.notBlank, .flag, false,
      fun v => if v.isNull then .ok false else v.asText.map fun s => strip s != "", fun _ => []⟩
  | minLength length =>
    lengthCheck .minLength Parameter.minLength length [Parameter.min] (Value.related .atLeast)
  | maxLength length =>
    lengthCheck .maxLength Parameter.maxLength length [Parameter.max] (Value.related .atMost)
  | exactLength length =>
    lengthCheck .exactLength Parameter.exactLength length [] fun v w => .ok (v.equals w)
  | matchesPattern source => do
    let p ← source.pattern?
    if strip p.source = "" then .error .patternBlank
    else return ⟨.matchesPattern, .reference Parameter.pattern (.text p.source) false, true,
      fun v => v.textOnly.map p.matchesAll, fun _ => []⟩
  | oneOf allowed ignoreCase => do
    let items ← requireValues allowed
    let shape := Shape.membership (.list items) Parameter.allowedValues
    if ignoreCase then
      let folded ← foldAll items
      return ⟨.oneOfIgnoreCase, shape, true,
        fun v => v.asText.map fun s => folded.contains (fold s), fun _ => []⟩
    else return ⟨.oneOf, shape, true, fun v => .ok (v.among items), fun _ => []⟩
  | startsWith first =>
    partCheck .startsWith Parameter.prefixText first fun v => do
      let s ← v.asText
      anyOfTexts (fun t => t.toList.isPrefixOf s.toList) first
  | endsWith last =>
    partCheck .endsWith Parameter.suffixText last fun v => do
      let s ← v.asText
      anyOfTexts (fun t => endsChars t.toList s.toList) last
  | contains part =>
    partCheck .contains Parameter.substring part fun v => v.holds? part
  | numeric => .ok (Check.flag .numeric fun v => v.textOnly.map (isAll isDigit))
  | alphanumeric =>
    .ok (Check.flag .alphanumeric fun v => v.textOnly.map (isAll isPlainAlphanumeric))

end TextCheck

end Verdict
