import Verdict.Fault
import Verdict.Pattern.Match

/-!
# Reading patterns

The text of a pattern is read into an expression in one pass over its marks, a mark being a
character or a backslash with the character after it. Options may be set for the whole pattern at
its start, and for a part of it by a group. A pattern that cannot be read is a fault.

The readers of sequences and choices call each other; each call takes a mark first, so the number
of marks bounds their depth, and `Pattern.read` gives them that bound.
-/

namespace Verdict.Pattern

open Text

/-! ## Marks -/

/-- One mark of the text of a pattern. -/
inductive Mark where
  | plain (c : Char)
  | escaped (c : Char)
deriving DecidableEq, Repr, Inhabited

/-- The marks of a text. A backslash at the end escapes nothing. -/
def marks? : List Char → Option (List Mark)
  | [] => some []
  | ['\\'] => none
  | '\\' :: c :: rest => (marks? rest).map (.escaped c :: ·)
  | c :: rest => (marks? rest).map (.plain c :: ·)

/-- What is known while a pattern is read. -/
structure Progress where
  rest : List Mark
  /-- The options of the whole pattern. -/
  options : Options
  /-- The widths of the groups so far, the first group first; a group that is open has none. -/
  widths : List (Option Width)
  names : List (String × Nat)
  /-- Within a look behind, the number that the next group had at its start. -/
  behindFrom : Option Nat
  /-- The groups that conditions ask for. -/
  asked : List Nat
deriving Inhabited

/-- A step of reading. -/
abbrev Reader := StateT Progress (Except Fault)

/-- The pattern cannot be read. -/
def malformed {α : Type} : Reader α := throw .malformedPattern

/-- The next mark, which is not taken. -/
def peek? : Reader (Option Mark) := do return (← get).rest.head?

/-- The next mark, which is taken. -/
def next? : Reader (Option Mark) := do
  let s ← get
  match s.rest with
  | [] => return none
  | m :: rest =>
    set { s with rest := rest }
    return some m

/-- Takes the next mark if it is the character. -/
def accept (c : Char) : Reader Bool := do
  if (← peek?) == some (.plain c) then
    let _ ← next?
    return true
  else return false

/-- Takes the next mark, which has to be the character. -/
def expect (c : Char) : Reader Unit := do
  if ← accept c then return else malformed

/-- The characters in front of the marks that are of the kind, up to a number of them. -/
def takeMarks (limit : Nat) (p : Char → Bool) : List Mark → List Char × List Mark
  | .plain c :: rest =>
    match limit with
    | 0 => ([], .plain c :: rest)
    | limit + 1 =>
      if p c then
        let (cs, rest) := takeMarks limit p rest
        (c :: cs, rest)
      else ([], .plain c :: rest)
  | rest => ([], rest)

/-- Takes characters of the kind, up to a number of them. -/
def takeUpTo (limit : Nat) (p : Char → Bool) : Reader (List Char) := do
  let s ← get
  let (cs, rest) := takeMarks limit p s.rest
  set { s with rest := rest }
  return cs

/-- Takes all characters of the kind. -/
def takeAll (p : Char → Bool) : Reader (List Char) := do
  let s ← get
  takeUpTo s.rest.length p

/-- Takes the name that ends with the mark, which is taken too. -/
def takeName (closing : Char) : Reader (List Char) := do
  let name ← takeAll (· != closing)
  expect closing
  if name.isEmpty then malformed else return name

/-- The number that digits write, if it is below the greatest number of rounds. -/
def roundCount (ds : List Char) : Reader Nat := do
  let n := readDigits 10 0 ds
  if n ≥ 4294967295 then throw .overflow else return n

/-- The number that digits of a base write; there have to be so many of them. -/
def takeCode (base count : Nat) : Reader Nat := do
  let ds ← takeUpTo count (isDigitOf base)
  if ds.length = count then return readDigits base 0 ds else malformed

/-! ## Escapes and sets -/

/-- The code points that a letter after a backslash stands for everywhere. -/
def controlCode? : Char → Option Nat
  | 'a' => some 7
  | 'f' => some 12
  | 'n' => some 10
  | 'r' => some 13
  | 't' => some 9
  | 'v' => some 11
  | '\\' => some 92
  | _ => none

/-- The class of characters that a letter after a backslash stands for. -/
def classItem? : Char → Option SetItem
  | 'd' => some (.cls .digit false)
  | 'D' => some (.cls .digit true)
  | 's' => some (.cls .space false)
  | 'S' => some (.cls .space true)
  | 'w' => some (.cls .word false)
  | 'W' => some (.cls .word true)
  | _ => none

/-- The place that a letter after a backslash stands for. -/
def anchor? : Char → Option Anchor
  | 'A' => some .textStart
  | 'Z' => some .textEnd
  | 'b' => some .wordEdge
  | 'B' => some .notWordEdge
  | _ => none

/-- Whether the character is an unaccented letter. -/
def isAsciiLetter (c : Char) : Bool :=
  (65 ≤ c.toNat && c.toNat ≤ 90) || (97 ≤ c.toNat && c.toNat ≤ 122)

/-- The code point that an escape with a number in base sixteen stands for. -/
def hexCode? (c : Char) : Reader (Option Nat) := do
  if c == 'x' then return some (← takeCode 16 2)
  else if c == 'u' then return some (← takeCode 16 4)
  else if c == 'U' then
    let n ← takeCode 16 8
    if n ≤ 0x10FFFF then return some n else malformed
  else return none

/-- The code point that digits in base eight stand for. -/
def octalCode (ds : List Char) : Reader Nat := do
  let n := readDigits 8 0 ds
  if n ≤ 255 then return n else malformed

/-- The item that an escape within a set stands for. -/
def escapedItem (c : Char) : Reader SetItem := do
  match controlCode? c with
  | some n => return .one n
  | none =>
    if c == 'b' then return .one 8
    else
      match classItem? c with
      | some item => return item
      | none =>
        match ← hexCode? c with
        | some n => return .one n
        | none =>
          if isDigitOf 8 c then
            return .one (← octalCode (c :: (← takeUpTo 2 (isDigitOf 8))))
          else if isDecimalDigit c || isAsciiLetter c then malformed
          else return .one c.toNat

/-- The item that a mark within a set stands for. -/
def markItem : Mark → Reader SetItem
  | .plain c => return .one c.toNat
  | .escaped c => escapedItem c

/-- The items of a set up to its closing mark, after those read so far, latest first. -/
def readItems : Nat → List SetItem → Reader (List SetItem)
  | 0, _ => malformed
  | fuel + 1, items => do
    match ← next? with
    | none => malformed
    | some mark =>
      if mark == .plain ']' && !items.isEmpty then return items.reverse
      else
        let low ← markItem mark
        if ← accept '-' then
          match ← next? with
          | none => malformed
          | some mark =>
            if mark == .plain ']' then return (.one 45 :: low :: items).reverse
            else
              match low, ← markItem mark with
              | .one a, .one b =>
                if b < a then malformed else readItems fuel (.range a b :: items)
              | _, _ => malformed
        else readItems fuel (low :: items)

/-- A set after its opening mark. -/
def readSet : Reader CharSet := do
  let negated ← accept '^'
  let s ← get
  return ⟨negated, ← readItems (s.rest.length + 1) []⟩

/-! ## References and escapes outside sets -/

/-- The width of a group so far. -/
def Progress.width? (s : Progress) (index : Nat) : Option Width :=
  if index = 0 then none else (s.widths[index - 1]?).bind id

/-- The number of the next group. -/
def Progress.nextGroup (s : Progress) : Nat := s.widths.length + 1

/-- Within a look behind, only groups that ended before it may be asked for. -/
def checkBehind (index : Nat) : Reader Unit := do
  let s ← get
  match s.behindFrom with
  | none => return
  | some first => if (s.width? index).isNone || index ≥ first then malformed else return

/-- What a group matched, once more. The group has to be there and to have ended. -/
def readReference (o : Options) (index : Nat) : Reader Expr := do
  let s ← get
  if index < s.nextGroup && (s.width? index).isSome then
    checkBehind index
    return .backref o index
  else malformed

/-- A character of its own. -/
def literal (o : Options) (n : Nat) : Expr := .one o ⟨false, [.one n]⟩

/-- How a part of a sequence may be repeated. -/
inductive PartKind where
  | place
  | repeated
  | ordinary
deriving DecidableEq, Repr, Inhabited

/-- The number of a group or of a character after a backslash and a digit. -/
def readNumbered (o : Options) (c : Char) : Reader Expr := do
  match ← peek? with
  | some (.plain d) =>
    if isDecimalDigit d then
      let _ ← next?
      let third ← if isDigitOf 8 c && isDigitOf 8 d then takeUpTo 1 (isDigitOf 8) else pure []
      if third.isEmpty then readReference o (readDigits 10 0 [c, d])
      else return literal o (← octalCode (c :: d :: third))
    else readReference o (readDigits 10 0 [c])
  | _ => readReference o (readDigits 10 0 [c])

/-- What an escape outside sets stands for. -/
def readEscape (o : Options) (c : Char) : Reader (Expr × PartKind) := do
  match anchor? c, classItem? c, controlCode? c with
  | some a, _, _ => return (.anchor o a, .place)
  | _, some item, _ => return (.one o ⟨false, [item]⟩, .ordinary)
  | _, _, some n => return (literal o n, .ordinary)
  | none, none, none =>
    match ← hexCode? c with
    | some n => return (literal o n, .ordinary)
    | none =>
      if c == '0' then
        return (literal o (readDigits 8 0 (← takeUpTo 2 (isDigitOf 8))), .ordinary)
      else if isDecimalDigit c then return (← readNumbered o c, .ordinary)
      else if isAsciiLetter c then malformed
      else return (literal o c.toNat, .ordinary)

/-! ## Repetition -/

/-- The bounds of a repetition after an opening brace, if it is one. Nothing is taken if it is
not. -/
def readBounds : Reader (Option (Nat × Option Nat)) := do
  let s ← get
  if s.rest.head? == some (.plain '}') then return none
  else
    let low ← takeAll isDecimalDigit
    let high ← if ← accept ',' then takeAll isDecimalDigit else pure low
    if ← accept '}' then
      let min ← if low.isEmpty then pure 0 else roundCount low
      if high.isEmpty then return some (min, none)
      else
        let max ← roundCount high
        if max < min then malformed else return some (min, some max)
    else
      set s
      return none

/-- The bounds of a repetition that starts with the mark, if it does. -/
def boundsOf? (c : Char) : Reader (Option (Nat × Option Nat)) := do
  if c == '?' then return some (0, some 1)
  else if c == '*' then return some (0, none)
  else if c == '+' then return some (1, none)
  else if c == '{' then readBounds
  else return none

/-- How often a repetition tries, by the mark after its bounds. -/
def readGreed : Reader Greed := do
  if ← accept '?' then return .reluctant
  else if ← accept '+' then return .possessive
  else return .greedy

/-! ## Options -/

/-- The options with the one that the letter turns on or off. Only some letters stand for one. -/
def Options.put? (o : Options) (c : Char) (on : Bool) : Option Options :=
  match c with
  | 'i' => some { o with ignoreCase := on }
  | 'm' => some { o with multiline := on }
  | 's' => some { o with dotAll := on }
  | 'x' => some { o with verbose := on }
  | 'a' => some { o with ascii := on }
  | 'u' => some { o with wide := on }
  | _ => none

/-- Whether a letter for the extent of classes is among the letters. -/
def hasExtent (letters : List Char) : Bool := letters.contains 'a' || letters.contains 'u'

/-- The letters of options from the given one up to a mark that ends them, and that mark. -/
def readLetters (closing : List Char) : Nat → Char → List Char → Reader (List Char × Char)
  | 0, _, _ => malformed
  | fuel + 1, c, letters => do
    if (Options.put? {} c true).isNone then malformed
    else
      match ← next? with
      | some (.plain d) =>
        if closing.contains d then return ((c :: letters).reverse, d)
        else readLetters closing fuel d (c :: letters)
      | _ => malformed

/-- The options with the letters turned on or off one after the other. A letter for the extent of
classes takes the place of the other one. -/
def Options.putAll (o : Options) (letters : List Char) (on : Bool) : Options :=
  let o := if on && hasExtent letters then { o with ascii := false, wide := false } else o
  letters.foldl (fun o c => (o.put? c on).getD o) o

/-- What stands after the opening mark and the question mark of a group with options: options for
the whole pattern, or those turned on and off for the group. -/
inductive OptionLetters where
  | whole (on : List Char)
  | part (on off : List Char)
deriving Inhabited

/-- The options of a group from their first letter on. -/
def readOptions (c : Char) : Reader OptionLetters := do
  let fuel := (← get).rest.length + 1
  let (on, closing) ← if c == '-' then pure ([], '-') else readLetters [')', '-', ':'] fuel c []
  if on.contains 'a' && on.contains 'u' then malformed
  else if closing == ')' then return .whole on
  else if closing == '-' then
    match ← next? with
    | some (.plain d) =>
      let (off, _) ← readLetters [':'] fuel d []
      if hasExtent off || on.any off.contains then malformed else return .part on off
    | _ => malformed
  else return .part on []

/-! ## Groups -/

/-- The widths with that of a group that ends. -/
def closeWidth (widths : List (Option Width)) (index : Nat) (w : Width) : List (Option Width) :=
  widths.set (index - 1) (some w)

/-- The width of an expression as far as groups are known. -/
def widthNow (e : Expr) : Reader Width := do
  let s ← get
  return e.width fun i => (s.width? i).getD ⟨0, some 0⟩

/-- Opens a group and gives its number. -/
def openGroup (name : Option (List Char)) : Reader Nat := do
  let s ← get
  let index := s.nextGroup
  let s := { s with widths := s.widths ++ [none] }
  match name with
  | none =>
    set s
    return index
  | some cs =>
    let text := String.ofList cs
    if (s.names.lookup text).isSome then malformed
    else
      set { s with names := (text, index) :: s.names }
      return index

/-- Whether the characters may name a group. -/
def isGroupName : List Char → Bool
  | [] => false
  | c :: rest => isWord c && !isDigit c && rest.all isWord

/-- The number of the group with the name. -/
def namedGroup (name : List Char) : Reader Nat := do
  if isGroupName name then
    match (← get).names.lookup (String.ofList name) with
    | some index => return index
    | none => malformed
  else malformed

/-- The group that a condition asks for, by name or by number; a number may be that of a group
further on. -/
def conditionGroup (name : List Char) : Reader Nat := do
  let index ← if isGroupName name then namedGroup name
    else if name.all isDecimalDigit then do
      let n := readDigits 10 0 name
      if n = 0 then malformed
      else
        modify fun s => { s with asked := n :: s.asked }
        pure n
    else malformed
  checkBehind index
  return index

/-- What begins after an opening mark. -/
inductive GroupStart where
  | capturing (name : Option (List Char))
  | plain (on off : List Char)
  | atomic
  | look (ahead negated : Bool)
  | condition
  | reference (index : Nat)
  | comment
  | options (on : List Char)
deriving Inhabited

/-- What begins after an opening mark with a question mark and the letter `P`. -/
def readNamed : Reader GroupStart := do
  if ← accept '<' then
    let name ← takeName '>'
    if isGroupName name then return .capturing (some name) else malformed
  else if ← accept '=' then return .reference (← namedGroup (← takeName ')'))
  else malformed

/-- What begins after an opening mark. -/
def readGroupStart : Reader GroupStart := do
  if ← accept '?' then
    match ← next? with
    | some (.plain c) =>
      if c == 'P' then readNamed
      else if c == ':' then return .plain [] []
      else if c == '#' then
        let _ ← modify fun s => { s with rest := s.rest.dropWhile (· != .plain ')') }
        expect ')'
        return .comment
      else if c == '=' || c == '!' then return .look true (c == '!')
      else if c == '<' then
        match ← next? with
        | some (.plain d) =>
          if d == '=' || d == '!' then return .look false (d == '!') else malformed
        | _ => malformed
      else if c == '(' then return .condition
      else if c == '>' then return .atomic
      else
        match ← readOptions c with
        | .whole on => return .options on
        | .part on off => return .plain on off
    | _ => malformed
  else return .capturing none

/-! ## Sequences and choices -/

/-- The parts of a sequence, latest first, as one expression. -/
def joinParts (parts : List (Expr × PartKind)) : Expr :=
  parts.foldl (fun e p => match e with
    | .empty => p.1
    | _ => .seq p.1 e) .empty

/-- Whether a verbose pattern skips the character. -/
def isSkipped (c : Char) : Bool := c == ' ' || (9 ≤ c.toNat && c.toNat ≤ 13)

/-- The parts with the last of them repeated. There has to be one, and it may be neither a place
nor a repetition. -/
def repeatLast (parts : List (Expr × PartKind)) (min : Nat) (max : Option Nat) :
    Reader (List (Expr × PartKind)) := do
  match parts with
  | (e, .ordinary) :: before => return (.many (← readGreed) min max e, .repeated) :: before
  | _ => malformed

mutual

/-- A choice of sequences up to a closing mark or the end. -/
def readChoice : Nat → Options → Bool → Bool → Reader Expr
  | 0, _, _, _ => malformed
  | fuel + 1, o, top, first => do
    let e ← readParts fuel o (top && first) []
    if ← accept '|' then
      let s ← get
      return .alt e (← readChoice fuel (if top then s.options else o) top false)
    else return e

/-- A sequence up to a bar, a closing mark or the end, after the parts read so far, latest first.
Options for the whole pattern may stand at its start only. -/
def readParts : Nat → Options → Bool → List (Expr × PartKind) → Reader Expr
  | 0, _, _, _ => malformed
  | fuel + 1, o, first, parts => do
    match ← peek? with
    | none => return joinParts parts
    | some (.plain '|') => return joinParts parts
    | some (.plain ')') => return joinParts parts
    | some (.escaped c) =>
      let _ ← next?
      readParts fuel o first ((← readEscape o c) :: parts)
    | some (.plain c) =>
      let _ ← next?
      if o.verbose && isSkipped c then readParts fuel o first parts
      else if o.verbose && c == '#' then
        modify fun s => { s with rest := (s.rest.dropWhile (· != .plain '\n')).drop 1 }
        readParts fuel o first parts
      else if c == '.' then readParts fuel o first ((.any o, .ordinary) :: parts)
      else if c == '^' then readParts fuel o first ((.anchor o .lineStart, .place) :: parts)
      else if c == '$' then readParts fuel o first ((.anchor o .lineEnd, .place) :: parts)
      else if c == '[' then readParts fuel o first ((.one o (← readSet), .ordinary) :: parts)
      else if c == '(' then
        match ← readGroupStart with
        | .comment => readParts fuel o first parts
        | .options on =>
          if first && parts.isEmpty then
            let s ← get
            let both := on.foldl (fun o c => (o.put? c true).getD o) s.options
            modify fun s => { s with options := both }
            readParts fuel both first parts
          else malformed
        | start => readParts fuel o first ((← readGroup fuel o start) :: parts)
      else
        match ← boundsOf? c with
        | some (min, max) => readParts fuel o first (← repeatLast parts min max)
        | none => readParts fuel o first ((literal o c.toNat, .ordinary) :: parts)

/-- A group after its start, with its closing mark. -/
def readGroup : Nat → Options → GroupStart → Reader (Expr × PartKind)
  | 0, _, _ => malformed
  | fuel + 1, o, start => do
    match start with
    | .capturing name =>
      let index ← openGroup name
      let body ← readChoice fuel o false false
      expect ')'
      let w ← widthNow body
      modify fun s => { s with widths := closeWidth s.widths index w }
      return (.group index body, .ordinary)
    | .plain on off =>
      let body ← readChoice fuel ((o.putAll on true).putAll off false) false false
      expect ')'
      return (body, .ordinary)
    | .atomic =>
      let body ← readChoice fuel o false false
      expect ')'
      return (.atomic body, .ordinary)
    | .look true negated =>
      let body ← readChoice fuel o false false
      expect ')'
      return (.ahead negated body, .ordinary)
    | .look false negated =>
      let s ← get
      let outer := s.behindFrom
      modify fun s => { s with behindFrom := some (outer.getD s.nextGroup) }
      let body ← readChoice fuel o false false
      modify fun s => { s with behindFrom := outer }
      expect ')'
      let w ← widthNow body
      if w.greatest = some w.least then return (.behind negated w.least body, .ordinary)
      else malformed
    | .condition =>
      let index ← conditionGroup (← takeName ')')
      let yes ← readParts fuel o false []
      let no ← if ← accept '|' then readParts fuel o false [] else pure .empty
      expect ')'
      return (.choice index yes no, .ordinary)
    | .reference index => return (← readReference o index, .ordinary)
    | _ => malformed

end

/-- A whole pattern. -/
def readWhole (fuel : Nat) (o : Options) : Reader Expr := do
  let e ← readChoice fuel o true true
  let s ← get
  if !s.rest.isEmpty || s.asked.any (· ≥ s.nextGroup) then malformed
  else if s.options.ascii && s.options.wide then
    throw (.raised .value "ASCII and UNICODE flags are incompatible")
  else return e

end Pattern

/-! ## Patterns -/

/-- A pattern: its text and the expression that it was read into. -/
structure Pattern where
  source : String
  expr : Pattern.Expr
deriving Inhabited

namespace Pattern

/-- The pattern that a text writes. -/
def read (source : String) (ignoreCase : Bool) : Except Fault Pattern :=
  match marks? source.toList with
  | none => .error .malformedPattern
  | some marks =>
    let o : Options := { ignoreCase := ignoreCase }
    let start : Progress := ⟨marks, o, [], [], none, []⟩
    match (readWhole (4 * marks.length + 8) o).run start with
    | .ok (e, _) => .ok ⟨source, e⟩
    | .error fault => .error fault

/-- Whether the pattern matches the whole text. -/
def matchesAll (p : Pattern) (text : String) : Bool := p.expr.matchesAll text.toList

end Pattern

end Verdict
