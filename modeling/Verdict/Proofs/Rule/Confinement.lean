import Verdict.Proofs.Check.Building
import Verdict.Proofs.Rule.Adding
import Verdict.Session

/-!
# Failures stay with their element

A run is for one element. A built-in check reports failures of that element, and so does a condition
of the caller's own if its factory uses the element that it is given. `Rule.Confined` is the rules
that are put together from such parts and nothing else that reports; all else in them is free, above
all the enrichers, which may give failures of any element.

`Confined.adds` says that all that such a rule adds is about the element of the run. What carries it
past an enricher is that a replacement of another element is refused
(`Enricher.identifier_of_verdict_eq`), at every failure of every enriched part.
-/

namespace Verdict

/-- The failure is about the element. -/
def Failure.IsOf (id : Option Identifier) (f : Failure) : Prop := some f.identifier = id

/-- A shape gives failures of the element that it is given. -/
theorem Shape.isOf_of_failure {s : Shape} {id : Option Identifier} {code : Option String}
    {f : Failure} (h : s.failure id code = .ok f) : f.IsOf id := by
  obtain ⟨_, -, hreport⟩ := exists_of_bind_eq_ok h
  cases id with
  | none => cases hreport
  | some id =>
    obtain ⟨p, -, hcreate⟩ := exists_of_bind_eq_ok hreport
    obtain ⟨id', text, hid, -, hf, -⟩ := Failure.create_eq_ok hcreate
    rw [Failure.IsOf, hf, hid]

/-- So does a check, whatever it reads off the value besides. -/
theorem Check.isOf_of_judge {c : Check} {value : Value} {id : Option Identifier} {f : Failure}
    (h : c.judge value id = .ok (some f)) : f.IsOf id := by
  rw [judge_eq] at h
  obtain ⟨passes, -, hreport⟩ := exists_of_bind_eq_ok h
  cases passes with
  | true => cases hreport
  | false =>
    obtain ⟨g, hg, heq⟩ := exists_of_map_eq_ok hreport
    obtain rfl := Option.some.inj heq
    rw [failure_eq] at hg
    obtain ⟨reported, hshape, rfl⟩ := exists_of_map_eq_ok hg
    have hof : reported.IsOf id := Shape.isOf_of_failure hshape
    exact hof

namespace Rule

variable {ν : Type}

/-- Failures come from checks and from factories that use the element they are given. They may be
enriched in any way. -/
inductive Confined : Rule ν → Prop where
  | check (c : Check) : Confined (check c)
  | create (skipsNull : Bool) (test : Predicate) {factory : FailureFactory}
    (hfactory : ∀ id f, factory id = .ok f → f.IsOf id) :
    Confined (create skipsNull test factory)
  | noop : Confined noop
  | chain {first second : Rule ν} (hf : first.Confined) (hs : second.Confined) :
    Confined (chain first second)
  | chainAlways {first second : Rule ν} (hf : first.Confined) (hs : second.Confined) :
    Confined (chainAlways first second)
  | chainIf {first second : Rule ν} (hf : first.Confined) (condition : Predicate)
    (hs : second.Confined) : Confined (chainIf first condition second)
  | chainIfClean {first second : Rule ν} (hf : first.Confined) (hs : second.Confined)
    (elements : List (Option Identifier)) : Confined (chainIfClean first second elements)
  | skipIf {rule : Rule ν} (h : rule.Confined) (condition : Predicate) :
    Confined (skipIf rule condition)
  | named {rule : Rule ν} (h : rule.Confined) (name : String) : Confined (named rule name)
  | peek {rule : Rule ν} (h : rule.Confined) (watcher : Watcher ν) : Confined (peek rule watcher)
  | withMetadata {rule : Rule ν} (h : rule.Confined) (enricher : Enricher) :
    Confined (withMetadata rule enricher)
  | stamped {rule : Rule ν} (h : rule.Confined) (overrides : Overrides) :
    Confined (stamped rule overrides)

namespace Confined

variable {rule : Rule ν}

/-- A guard only leaves the rule out. -/
theorem wrap (h : rule.Confined) (guard : Guard) (identifier : Option Identifier) :
    (guard.wrap identifier rule).Confined := by
  cases guard with
  | always => exact h
  | on condition => exact .skipIf h _
  | whileClean => exact .chainIfClean .noop h _
  | whileCleanFor other => exact .chainIfClean .noop h _

/-- Whatever the earlier failures, all that is added is about the element of the run. -/
theorem adds (h : rule.Confined) (value : Value) (id : Option Identifier) (fs : List Failure) :
    (rule.report value id fs).Adds (Failure.IsOf id) := by
  -- followed or not, an enricher leaves the element of a failure
  have henriched (e : Enricher) (f g : Failure) (hf : f.IsOf id) (hg : e.verdict f = .ok g) :
      g.IsOf id := by
    rw [Failure.IsOf, Enricher.identifier_of_verdict_eq hg]
    exact hf
  induction h generalizing fs with
  | check c => exact .record fun f hf => Check.isOf_of_judge hf
  | create skipsNull test hfactory =>
    refine Report.Adds.orNothing (.branch _ .nothing (.record fun f hf => ?_)) _
    obtain ⟨g, hg, heq⟩ := exists_of_map_eq_ok hf
    obtain rfl := Option.some.inj heq
    exact hfactory id g hg
  | noop => exact .nothing
  | chain _ _ ihf ihs => exact (ihf fs).andThen (fun gs => (ihs gs).orNothing _) fs
  | chainAlways _ _ ihf ihs => exact (ihf fs).andThen ihs fs
  | chainIf _ condition _ ihf ihs =>
    exact (ihf fs).andThen (fun gs => (Report.Adds.branch _ (ihs gs) .nothing).orNothing _) fs
  | chainIfClean _ _ elements ihf ihs =>
    exact (ihf fs).andThen (fun gs => (ihs gs).orNothing _) fs
  | skipIf _ condition ih => exact .branch _ .nothing (ih fs)
  | named _ name ih => exact ih fs
  | peek _ watcher ih =>
    refine (ih fs).andThen (fun gs => ?_) fs
    rcases watcher ⟨value, Answers.ofFailures gs, id⟩ with fault | notes
    · exact .stopped fault
    · intro f hf
      cases hf
  | withMetadata _ enricher ih => exact (ih fs).enriched (henriched enricher)
  | stamped _ overrides ih =>
    rw [report_stamped]
    exact (ih fs).enriched (henriched _)

end Confined

end Rule

end Verdict
