import Verdict.Proofs.Rule.Enrichment

/-!
# What all added failures have in common

`Report.Adds P` says that `P` holds of every failure that a report adds, whether or not it ends in a
fault. Every way of putting reports together keeps it, so for a rule it is shown along the parts of
the rule. Only enriching puts other failures in the place of those that were added: there `P` has to
be kept by what the enricher is allowed to do.
-/

namespace Verdict

variable {ν : Type} {P : Failure → Prop}

/-- What an enricher that is followed keeps, holds of all failures after the work, also of those
that it did not come to. -/
theorem Enricher.forall_enrichAll {e : Enricher} (he : ∀ f g, P f → e.verdict f = .ok g → P g)
    {fs : List Failure} (h : ∀ f ∈ fs, P f) : ∀ f ∈ (e.enrichAll fs).1, P f := by
  induction fs with
  | nil => exact h
  | cons f rest ih =>
    obtain ⟨hf, hrest⟩ := List.forall_mem_cons.mp h
    rw [enrichAll]
    rcases hv : e.verdict f with fault | g
    · exact h
    · exact List.forall_mem_cons.mpr ⟨he f g hf hv, ih hrest⟩

namespace Report

/-- All failures that are added have something in common. -/
def Adds (P : Failure → Prop) (p : Report ν) : Prop := ∀ f ∈ p.added, P f

namespace Adds

variable {p : Report ν}

theorem nothing : (Report.nothing : Report ν).Adds P := fun _ h => by cases h

theorem stopped (fault : Fault) : (Report.stopped fault : Report ν).Adds P := fun _ h => by cases h

theorem record {answer : Except Fault (Option Failure)} (h : ∀ f, answer = .ok (some f) → P f) :
    (Report.record answer : Report ν).Adds P := by
  rcases answer with fault | _ | f
  · exact stopped fault
  · exact nothing
  · exact List.forall_mem_singleton.mpr (h f rfl)

theorem branch {yes no : Report ν} (answer : Except Fault Bool) (hyes : yes.Adds P)
    (hno : no.Adds P) : (Report.branch answer yes no).Adds P := by
  rcases answer with fault | _ | _
  · exact stopped fault
  · exact hno
  · exact hyes

theorem orNothing (h : p.Adds P) (answer : Bool) :
    (if answer then Report.nothing else p).Adds P := by
  cases answer with
  | false => exact h
  | true => exact nothing

/-- What follows may depend on the earlier failures, but not what is common to those it adds. -/
theorem andThen (h : p.Adds P) {next : List Failure → Report ν} (hnext : ∀ fs, (next fs).Adds P)
    (earlier : List Failure) : (p.andThen earlier next).Adds P := by
  rw [Report.andThen]
  rcases p.fault with _ | fault
  · intro f hf
    rcases List.mem_append.mp hf with hfirst | hsecond
    · exact h f hfirst
    · exact hnext _ f hsecond
  · exact h

theorem enriched (h : p.Adds P) {e : Enricher} (he : ∀ f g, P f → e.verdict f = .ok g → P g) :
    (p.enriched e).Adds P := by
  rw [Report.enriched]
  rcases p.fault with _ | fault
  · exact Enricher.forall_enrichAll he h
  · exact h

end Adds

end Report

/-- What is common to all failures of the report of a rule, after whatever failures, is common to
all that a run adds. -/
theorem Rule.exists_added {rule : Rule ν} {value : Value} {id : Option Identifier}
    (h : ∀ fs, (rule.report value id fs).Adds P) {r : Result} (hr : r.Consistent) :
    ∃ added, (rule.run value id r).result.failures = r.failures ++ added ∧ ∀ f ∈ added, P f := by
  rw [rule.run_result value id hr]
  exact ⟨_, r.failures_addAll _, h r.failures⟩

end Verdict
