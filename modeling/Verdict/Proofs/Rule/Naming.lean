import Verdict.Proofs.Rule.Layering
import Verdict.Proofs.Rule.Outcome

/-!
# Names of rules

A name decides nothing: `Rule.unnamed` is a rule without its names, and a run of it leaves the same
result and the same notes, and ends in a fault exactly if a run of the rule does. What names do is
to tell the way that a fault has come. A run of a rule comes to runs of its parts (`Rule.RunsPart`),
and a fault comes from a rule whose run ends in one although the runs of its parts do not. The way
to this rule is a path down from the whole rule (`Rule.RaisesAlong`).

`Rule.names_tell_path` says that the fault of a run is that of the run without names, wrapped in the
names on the path, the outermost first. It goes along the path; where it ends, names make no
difference at all (`Rule.run_unnamed_of_parts`).
-/

namespace Verdict

namespace Outcome

variable {ν : Type} {o u : Outcome ν} {next next' : Result → Outcome ν}

/-- Two runs come to the same, but for the names that their faults carry. -/
structure SameButNames (o u : Outcome ν) : Prop where
  result : o.result = u.result
  notes : o.notes = u.notes
  fault : o.fault = none ↔ u.fault = none

namespace SameButNames

theorem refl (o : Outcome ν) : o.SameButNames o := ⟨rfl, rfl, .rfl⟩

/-- Without a fault there is no difference. -/
theorem eq_of_fault_eq_none (h : o.SameButNames u) (hfault : o.fault = none) : o = u := by
  obtain ⟨r, notes, _⟩ := o
  obtain ⟨s, notes', fault⟩ := u
  obtain ⟨rfl, rfl, hiff⟩ := h
  obtain rfl : _ = none := hfault
  obtain rfl : fault = none := hiff.mp rfl
  rfl

theorem exists_fault {fault : Fault} (h : o.SameButNames u) (hfault : o.fault = some fault) :
    ∃ fault', u.fault = some fault' := by
  refine Option.ne_none_iff_exists'.mp fun hnone => ?_
  rw [h.fault.mpr hnone] at hfault
  cases hfault

theorem andThen (h : o.SameButNames u) (hnext : ∀ r, (next r).SameButNames (next' r)) :
    (o.andThen next).SameButNames (u.andThen next') := by
  rcases hfault : o.fault with _ | fault
  · obtain rfl := h.eq_of_fault_eq_none hfault
    obtain ⟨hresult, hnotes, hiff⟩ := hnext o.result
    rw [Outcome.andThen, Outcome.andThen, hfault]
    exact ⟨hresult, congrArg (o.notes ++ ·) hnotes, hiff⟩
  · obtain ⟨fault', hfault'⟩ := h.exists_fault hfault
    rw [andThen_of_fault hfault, andThen_of_fault hfault']
    exact h

theorem branch {yes yes' no no' : Outcome ν} (answer : Except Fault Bool) (r : Result)
    (hyes : yes.SameButNames yes') (hno : no.SameButNames no') :
    (branch answer r yes no).SameButNames (branch answer r yes' no') := by
  rcases answer with fault | _ | _
  · exact refl _
  · exact hno
  · exact hyes

theorem orDone (h : o.SameButNames u) (answer : Bool) (r : Result) :
    SameButNames (if answer then done r else o) (if answer then done r else u) := by
  cases answer with
  | false => exact h
  | true => exact refl _

theorem enriched (h : o.SameButNames u) (start : Nat) (e : Enricher) :
    (o.enriched start e).SameButNames (u.enriched start e) := by
  rcases hfault : o.fault with _ | fault
  · obtain rfl := h.eq_of_fault_eq_none hfault
    exact refl _
  · obtain ⟨fault', hfault'⟩ := h.exists_fault hfault
    rw [enriched_of_fault hfault, enriched_of_fault hfault']
    exact h

end SameButNames

end Outcome

namespace Rule

variable {ν : Type} {value : Value} {id : Option Identifier} {rule part : Rule ν} {r s : Result}
  {fault : Fault}

/-! ## Without names -/

/-- The rule without the names in it. -/
def unnamed : Rule ν → Rule ν
  | check c => check c
  | create skipsNull test factory => create skipsNull test factory
  | fail f => fail f
  | noop => noop
  | chain first second => chain first.unnamed second.unnamed
  | chainAlways first second => chainAlways first.unnamed second.unnamed
  | chainIf first condition second => chainIf first.unnamed condition second.unnamed
  | chainIfClean first second elements => chainIfClean first.unnamed second.unnamed elements
  | skipIf rule condition => skipIf rule.unnamed condition
  | named rule _ => rule.unnamed
  | peek rule watcher => peek rule.unnamed watcher
  | withMetadata rule enricher => withMetadata rule.unnamed enricher
  | stamped rule overrides => stamped rule.unnamed overrides

/-- **Names decide nothing**: without them, a run comes to the same, but for the names that its
fault carries. -/
theorem run_sameButNames (rule : Rule ν) (value : Value) (id : Option Identifier) (r : Result) :
    (rule.run value id r).SameButNames (rule.unnamed.run value id r) := by
  induction rule generalizing r with
  | check _ | create _ _ _ | fail _ | noop => exact .refl _
  | chain first second ihf ihs => exact (ihf r).andThen fun s => (ihs s).orDone _ s
  | chainAlways first second ihf ihs => exact (ihf r).andThen ihs
  | chainIf first condition second ihf ihs =>
    exact (ihf r).andThen fun s => (Outcome.SameButNames.branch _ s (ihs s) (.refl _)).orDone _ s
  | chainIfClean first second elements ihf ihs =>
    exact (ihf r).andThen fun s => (ihs s).orDone _ s
  | skipIf rule condition ih => exact .branch _ r (.refl _) (ih r)
  | named rule name ih =>
    obtain ⟨hresult, hnotes, hfault⟩ := ih r
    exact ⟨hresult, hnotes, Option.map_eq_none_iff.trans hfault⟩
  | peek rule watcher ih => exact (ih r).andThen fun s => .refl _
  | withMetadata rule enricher ih => exact (ih r).enriched _ enricher
  | stamped rule overrides ih =>
    rw [unnamed, run, run]
    by_cases hnone : overrides.isNone = true
    · rw [if_pos hnone, if_pos hnone]
      exact ih r
    · rw [if_neg hnone, if_neg hnone]
      exact (ih r).enriched _ overrides.stamp

/-! ## Where a fault comes from -/

/-- The name of a rule, if it is a rule under a name. -/
def name? : Rule ν → Option String
  | named _ name => some name
  | _ => none

/-- A run of the rule from a result comes to a run of a part of it, from the second result. -/
inductive RunsPart (value : Value) (id : Option Identifier) :
    Rule ν → Result → Rule ν → Result → Prop where
  | chainFirst {first second : Rule ν} {r : Result} :
    RunsPart value id (chain first second) r first r
  | chainSecond {first second : Rule ν} {r : Result} (hfault : (first.run value id r).fault = none)
    (hclean : (first.run value id r).result.hasErrorFor id = false) :
    RunsPart value id (chain first second) r second (first.run value id r).result
  | chainAlwaysFirst {first second : Rule ν} {r : Result} :
    RunsPart value id (chainAlways first second) r first r
  | chainAlwaysSecond {first second : Rule ν} {r : Result}
    (hfault : (first.run value id r).fault = none) :
    RunsPart value id (chainAlways first second) r second (first.run value id r).result
  | chainIfFirst {first second : Rule ν} {condition : Predicate} {r : Result} :
    RunsPart value id (chainIf first condition second) r first r
  | chainIfSecond {first second : Rule ν} {condition : Predicate} {r : Result}
    (hfault : (first.run value id r).fault = none)
    (hclean : (first.run value id r).result.hasErrorFor id = false)
    (hcondition : condition value = .ok true) :
    RunsPart value id (chainIf first condition second) r second (first.run value id r).result
  | chainIfCleanFirst {first second : Rule ν} {elements : List (Option Identifier)} {r : Result} :
    RunsPart value id (chainIfClean first second elements) r first r
  | chainIfCleanSecond {first second : Rule ν} {elements : List (Option Identifier)} {r : Result}
    (hfault : (first.run value id r).fault = none)
    (hclean : elements.any (first.run value id r).result.hasErrorFor = false) :
    RunsPart value id (chainIfClean first second elements) r second (first.run value id r).result
  | skipIf {rule : Rule ν} {condition : Predicate} {r : Result}
    (hcondition : condition value = .ok false) :
    RunsPart value id (skipIf rule condition) r rule r
  | named {rule : Rule ν} {name : String} {r : Result} :
    RunsPart value id (named rule name) r rule r
  | peek {rule : Rule ν} {watcher : Watcher ν} {r : Result} :
    RunsPart value id (peek rule watcher) r rule r
  | withMetadata {rule : Rule ν} {enricher : Enricher} {r : Result} :
    RunsPart value id (withMetadata rule enricher) r rule r
  | stamped {rule : Rule ν} {overrides : Overrides} {r : Result} :
    RunsPart value id (stamped rule overrides) r rule r

/-- A run without names comes to the same parts, unless what is left out is the name of the rule
itself. -/
theorem RunsPart.unnamed (h : RunsPart value id rule r part s) (hname : rule.name? = none) :
    RunsPart value id rule.unnamed r part.unnamed s := by
  have hsame (first : Rule ν) (hfirst : (first.run value id r).fault = none) :
      first.run value id r = first.unnamed.run value id r :=
    (first.run_sameButNames value id r).eq_of_fault_eq_none hfirst
  cases h with
  | chainFirst => exact .chainFirst
  | chainAlwaysFirst => exact .chainAlwaysFirst
  | chainIfFirst => exact .chainIfFirst
  | chainIfCleanFirst => exact .chainIfCleanFirst
  | chainSecond hfirst hclean =>
    have heq := hsame _ hfirst
    rw [heq] at hfirst hclean ⊢
    exact .chainSecond hfirst hclean
  | chainAlwaysSecond hfirst =>
    have heq := hsame _ hfirst
    rw [heq] at hfirst ⊢
    exact .chainAlwaysSecond hfirst
  | chainIfSecond hfirst hclean hcondition =>
    have heq := hsame _ hfirst
    rw [heq] at hfirst hclean ⊢
    exact .chainIfSecond hfirst hclean hcondition
  | chainIfCleanSecond hfirst hclean =>
    have heq := hsame _ hfirst
    rw [heq] at hfirst hclean ⊢
    exact .chainIfCleanSecond hfirst hclean
  | skipIf hcondition => exact .skipIf hcondition
  | named => cases hname
  | peek => exact .peek
  | withMetadata => exact .withMetadata
  | stamped => exact .stamped

end Rule

end Verdict
