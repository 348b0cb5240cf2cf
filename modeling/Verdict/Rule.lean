import Verdict.Check
import Verdict.Result

/-!
# Rules

A rule looks at a value for an element and adds failures to a result. Rules are built from checks
and conditions by combinators: one after another, only while an element is clean, under a
condition, under a name, watched, or with labels put on what they report.

`Rule.run` gives the result afterwards, the notes that watchers took, and the fault that ended the
run, if one did; failures and notes from before the fault stay. Only the result's own ledger
changes, and labels are put on the failures of the present run only.
-/

namespace Verdict

/-! ## What rules are made of -/

/-- What a watcher is shown after a rule has run. Of the result it sees the answers, and not
whether it is layered. -/
structure Snapshot where
  value : Value
  result : Answers
  identifier : Option Identifier

namespace Snapshot

/-- Whether the element has a failure. -/
def hasError (s : Snapshot) : Bool := s.result.hasErrorFor s.identifier

/-- The failures of the element. -/
def errors (s : Snapshot) : List Failure := s.result.errorsFor s.identifier

end Snapshot

/-- What a watcher notes when shown a snapshot. -/
abbrev Watcher (ν : Type) := Snapshot → Except Fault (List ν)

/-- Makes the failure for an element. -/
abbrev FailureFactory := Option Identifier → Except Fault Failure

/-- Labels to put on failures; those that are missing stay as they are. -/
structure Overrides where
  severity : Option SeverityLabel
  category : Option String
  group : Option String
  blocking : Option Bool
deriving DecidableEq, Repr, Inhabited

namespace Overrides

/-- No label. -/
def none : Overrides := ⟨.none, .none, .none, .none⟩

/-- Whether there is no label to put. -/
def isNone (o : Overrides) : Bool :=
  o.severity.isNone && o.category.isNone && o.group.isNone && o.blocking.isNone

/-- The failure with a severity, if there is one to put. -/
def stampSeverity (o : Overrides) (f : Failure) : Except Fault Failure :=
  if o.severity.isSome then f.withSeverity o.severity else .ok f

/-- The failure with the other labels that there are to put. -/
def stampRest (o : Overrides) (f : Failure) : Failure :=
  let f := if o.category.isSome then f.withCategory o.category else f
  let f := if o.group.isSome then f.withGroup o.group else f
  if o.blocking.isSome then f.withBlocking o.blocking else f

/-- The failure with the labels. -/
def stamp (o : Overrides) : Enricher := fun f =>
  (o.stampSeverity f).map fun f => some (o.stampRest f)

end Overrides

/-- A rule; `ν` is what its watchers note. -/
inductive Rule (ν : Type) where
  /-- A built-in check. -/
  | check (c : Check)
  /-- A condition of the caller's own, with a factory for its failure. -/
  | create (skipsNull : Bool) (test : Predicate) (factory : FailureFactory)
  /-- Always this failure. -/
  | fail (f : Failure)
  | noop
  /-- The second rule only if the element has no failure after the first. -/
  | chain (first second : Rule ν)
  /-- Both rules. -/
  | chainAlways (first second : Rule ν)
  /-- The second rule only if the element has no failure after the first and the value passes. -/
  | chainIf (first : Rule ν) (condition : Predicate) (second : Rule ν)
  /-- The second rule only if none of the elements has a failure after the first. -/
  | chainIfClean (first second : Rule ν) (elements : List (Option Identifier))
  /-- The rule unless the value passes. -/
  | skipIf (rule : Rule ν) (condition : Predicate)
  /-- The rule under a name, which its faults carry. -/
  | named (rule : Rule ν) (name : String)
  /-- The rule, watched. -/
  | peek (rule : Rule ν) (watcher : Watcher ν)
  /-- The rule, with its failures enriched one after the other. -/
  | withMetadata (rule : Rule ν) (enricher : Enricher)
  /-- The rule, with labels put on its failures. -/
  | stamped (rule : Rule ν) (overrides : Overrides)

/-! ## Runs -/

/-- What a run gives: the result afterwards, the notes, and the fault that ended it. -/
structure Outcome (ν : Type) where
  result : Result
  notes : List ν
  fault : Option Fault

namespace Outcome

variable {ν : Type}

/-- A run that leaves the result as it is. -/
def done (r : Result) : Outcome ν := ⟨r, [], none⟩

/-- A run that ends in a fault. -/
def stopped (r : Result) (fault : Fault) : Outcome ν := ⟨r, [], some fault⟩

/-- A run and then another from where it ended, unless it ended in a fault. -/
def andThen (o : Outcome ν) (next : Result → Outcome ν) : Outcome ν :=
  match o.fault with
  | some _ => o
  | none =>
    let p := next o.result
    ⟨p.result, o.notes ++ p.notes, p.fault⟩

/-- One of two runs, as an answer decides; no answer is a fault. -/
def branch (answer : Except Fault Bool) (r : Result) (yes no : Outcome ν) : Outcome ν :=
  match answer with
  | .error fault => stopped r fault
  | .ok true => yes
  | .ok false => no

/-- The result with a failure, if there is one. -/
def record (r : Result) : Except Fault (Option Failure) → Outcome ν
  | .error fault => stopped r fault
  | .ok none => done r
  | .ok (some f) => done (r.add f)

end Outcome

/-- The result with the given failures, which begin at the index, enriched one after the other. The
first that gives a fault, nothing, or a failure of another element ends the work. -/
def enrichFrom (enricher : Enricher) (index : Nat) :
    List Failure → Result → Result × Option Fault
  | [], r => (r, none)
  | f :: rest, r =>
    match enricher f with
    | .error fault => (r, some fault)
    | .ok none => (r, some .enrichedNothing)
    | .ok (some g) =>
      match r.replace index g with
      | .error fault => (r, some fault)
      | .ok r => enrichFrom enricher (index + 1) rest r

/-- A run with the failures that it added enriched. -/
def Outcome.enriched {ν : Type} (start : Nat) (enricher : Enricher) (o : Outcome ν) : Outcome ν :=
  match o.fault with
  | some _ => o
  | none =>
    let (r, fault) := enrichFrom enricher start (o.result.failures.drop start) o.result
    ⟨r, o.notes, fault⟩

namespace Rule

variable {ν : Type}

/-- The run of a rule on a value for an element from a result. -/
def run : Rule ν → Value → Option Identifier → Result → Outcome ν
  | check c, value, id, r => .record r (c.judge value id)
  | create skipsNull test factory, value, id, r =>
    if skipsNull && value.isNull then .done r
    else .branch (test value) r (.done r) (.record r ((factory id).map some))
  | fail f, _, _, r => .done (r.add f)
  | noop, _, _, r => .done r
  | chain first second, value, id, r =>
    (first.run value id r).andThen fun r =>
      if r.hasErrorFor id then .done r else second.run value id r
  | chainAlways first second, value, id, r =>
    (first.run value id r).andThen fun r => second.run value id r
  | chainIf first condition second, value, id, r =>
    (first.run value id r).andThen fun r =>
      if r.hasErrorFor id then .done r
      else .branch (condition value) r (second.run value id r) (.done r)
  | chainIfClean first second elements, value, id, r =>
    (first.run value id r).andThen fun r =>
      if elements.any r.hasErrorFor then .done r else second.run value id r
  | skipIf rule condition, value, id, r =>
    .branch (condition value) r (.done r) (rule.run value id r)
  | named rule name, value, id, r =>
    let o := rule.run value id r
    { o with fault := o.fault.map (.execution name id) }
  | peek rule watcher, value, id, r =>
    (rule.run value id r).andThen fun r =>
      match watcher ⟨value, r.answers, id⟩ with
      | .error fault => .stopped r fault
      | .ok notes => ⟨r, notes, none⟩
  | withMetadata rule enricher, value, id, r =>
    (rule.run value id r).enriched r.size enricher
  | stamped rule overrides, value, id, r =>
    if overrides.isNone then rule.run value id r
    -- what stood in the result before the run keeps its labels
    else (rule.run value id r).enriched r.size overrides.stamp

/-- A rule that cannot be run, in place of one that is missing. -/
def absent : Rule ν :=
  create false (fun _ => .error .unsupported) fun _ => .error .unsupported

/-- Rules one after the other, whatever they find. -/
def sequence : List (Rule ν) → Rule ν
  | [] => noop
  | [rule] => rule
  | rule :: rest => chainAlways rule (sequence rest)

/-- The rule with its failures enriched. There has to be an enricher. -/
def enrichedBy (rule : Rule ν) : Option Enricher → Except Fault (Rule ν)
  | none => .error .enricherAbsent
  | some enricher => .ok (withMetadata rule enricher)

/-- A rule with labels put on its failures. Without labels it is the rule itself, missing or not. -/
def labelled (rule : Option (Rule ν)) (overrides : Overrides) : Option (Rule ν) :=
  if overrides.isNone then rule else some (stamped (rule.getD absent) overrides)

end Rule

/-! ## Configuration -/

/-- A setting of a rule builder. -/
inductive LabelSetting where
  | severity (label : Option SeverityLabel)
  | category (text : Option String)
  | group (text : Option String)
  | blocking (value : Option Bool)
deriving DecidableEq, Repr, Inhabited

/-- The labels after one more setting, which takes the place of an earlier one of its kind. -/
def Overrides.set (o : Overrides) : LabelSetting → Overrides
  | .severity label => { o with severity := label }
  | .category text => { o with category := text }
  | .group text => { o with group := text }
  | .blocking value => { o with blocking := value }

/-- The rule that settings configure. There has to be a rule to configure. -/
def configure {ν : Type} (rule : Option (Rule ν)) (settings : List LabelSetting) :
    Except Fault (Rule ν) :=
  match rule with
  | none => .error .ruleAbsent
  | some rule => .ok (.stamped rule (settings.foldl Overrides.set Overrides.none))

end Verdict
