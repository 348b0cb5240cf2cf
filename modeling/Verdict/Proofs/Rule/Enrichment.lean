import Verdict.Proofs.Result.History

/-!
# Enriched rules

A rule with an enricher first runs as it would alone, and then its failures are enriched one after
the other. Three things can end that half way: the enricher gives a fault, it gives nothing, or it
gives a failure of another element. `Enricher.Accepts` and `Enricher.Refuses` tell the cases apart.

`withMetadata_run` says what is left in each: the failures before the refused one enriched, the
refused one and those after it as the rule had left them. However far it comes, enriching neither
adds, drops nor moves a failure, and never changes the element of one.

Labels are put on by an enricher, too: `report_of_labelled` says so also where there is no label to
put, and the rule is left unwrapped.
-/

namespace Verdict

namespace Enricher

variable {e : Enricher}

/-- The enricher makes one failure another of the same element. -/
def Accepts (e : Enricher) (f g : Failure) : Prop :=
  e f = .ok (some g) ∧ g.identifier = f.identifier

/-- The enricher cannot be followed on a failure, and why. -/
inductive Refuses (e : Enricher) (f : Failure) : Fault → Prop where
  | raises {fault : Fault} (h : e f = .error fault) : Refuses e f fault
  | givesNothing (h : e f = .ok none) : Refuses e f .enrichedNothing
  | givesOther {g : Failure} (h : e f = .ok (some g)) (hid : g.identifier ≠ f.identifier) :
    Refuses e f (.replacementMismatch g.identifier f.identifier)

theorem Accepts.verdict_eq {f g : Failure} (h : e.Accepts f g) : e.verdict f = .ok g := by
  rw [verdict, h.1]
  exact if_pos h.2

theorem Refuses.verdict_eq {f : Failure} {fault : Fault} (h : e.Refuses f fault) :
    e.verdict f = .error fault := by
  rw [verdict]
  cases h with
  | raises h => rw [h]
  | givesNothing h => rw [h]
  | givesOther h hid =>
    rw [h]
    exact if_neg hid

/-- Giving nothing is a mistake of kind, giving another element one of value. -/
theorem Refuses.family {f : Failure} {fault : Fault} (h : e.Refuses f fault) :
    (e f = .ok none → fault.family = .kind) ∧
      ∀ g, e f = .ok (some g) → fault.family = .value := by
  cases h with
  | raises h =>
    refine ⟨fun hn => ?_, fun _ hg => ?_⟩
    · cases h.symm.trans hn
    · cases h.symm.trans hg
  | givesNothing h =>
    refine ⟨fun _ => rfl, fun _ hg => ?_⟩
    cases h.symm.trans hg
  | givesOther h hid =>
    refine ⟨fun hn => ?_, fun _ _ => rfl⟩
    cases h.symm.trans hn

theorem identifier_of_verdict_eq {f g : Failure} (h : e.verdict f = .ok g) :
    g.identifier = f.identifier := by
  rw [verdict] at h
  rcases he : e f with fault | _ | g' <;> rw [he] at h
  · cases h
  · cases h
  · by_cases hid : g'.identifier = f.identifier
    · obtain rfl := Except.ok.inj ((if_pos hid).symm.trans h)
      exact hid
    · cases (if_neg hid).symm.trans h

/-- If every failure is accepted, all are enriched. -/
theorem enrichAll_of_accepts {fs gs : List Failure} (h : List.Forall₂ e.Accepts fs gs) :
    e.enrichAll fs = (gs, none) := by
  induction h with
  | nil => rfl
  | cons hfg _ ih =>
    rw [enrichAll, hfg.verdict_eq]
    simp only [ih]

/-- At the first failure that is refused, the work ends. -/
theorem enrichAll_of_refuses {fs gs : List Failure} {f : Failure} {fault : Fault}
    (h : List.Forall₂ e.Accepts fs gs) (hf : e.Refuses f fault) (rest : List Failure) :
    e.enrichAll (fs ++ f :: rest) = (gs ++ f :: rest, some fault) := by
  induction h with
  | nil =>
    rw [List.nil_append, enrichAll, hf.verdict_eq]
  | cons hfg _ ih =>
    rw [List.cons_append, enrichAll, hfg.verdict_eq]
    simp only [ih, List.cons_append]

/-- Enriching keeps the number of the failures, their order and their elements. -/
theorem identifiers_enrichAll (e : Enricher) (fs : List Failure) :
    (e.enrichAll fs).1.map (·.identifier) = fs.map (·.identifier) := by
  induction fs with
  | nil => rfl
  | cons f rest ih =>
    rw [enrichAll]
    rcases hv : e.verdict f with fault | g
    · rfl
    · simp only [List.map_cons, ih, identifier_of_verdict_eq hv]

end Enricher

namespace Report

variable {ν : Type} {p : Report ν}

theorem enriched_of_fault (e : Enricher) {fault : Fault} (h : p.fault = some fault) :
    p.enriched e = p := by
  rw [enriched, h]

theorem enriched_of_accepts {e : Enricher} (h : p.fault = none) {gs : List Failure}
    (hgs : List.Forall₂ e.Accepts p.added gs) : p.enriched e = ⟨gs, p.notes, none⟩ := by
  rw [enriched, h, Enricher.enrichAll_of_accepts hgs]

theorem enriched_of_refuses {e : Enricher} (h : p.fault = none) {k : Nat} {f : Failure}
    {gs : List Failure} {fault : Fault} (hk : p.added[k]? = some f)
    (hgs : List.Forall₂ e.Accepts (p.added.take k) gs) (hf : e.Refuses f fault) :
    p.enriched e = ⟨gs ++ p.added.drop k, p.notes, some fault⟩ := by
  obtain ⟨hlt, rfl⟩ := List.getElem?_eq_some_iff.mp hk
  have hall : e.enrichAll p.added = (gs ++ p.added.drop k, some fault) := by
    have hsplit := Enricher.enrichAll_of_refuses hgs hf (p.added.drop (k + 1))
    rwa [← List.drop_eq_getElem_cons hlt, List.take_append_drop] at hsplit
  rw [enriched, h, hall]

/-- An enricher that leaves failures as they are makes no difference. -/
theorem enriched_of_keeps {e : Enricher} (he : ∀ f, e.Accepts f f) (p : Report ν) :
    p.enriched e = p := by
  rcases hfault : p.fault with _ | fault
  · rw [enriched_of_accepts hfault (List.forall₂_same.mpr fun f _ => he f), ← hfault]
  · exact enriched_of_fault e hfault

theorem identifiers_enriched (e : Enricher) (p : Report ν) :
    (p.enriched e).added.map (·.identifier) = p.added.map (·.identifier) := by
  rcases h : p.fault with _ | fault
  · rw [enriched, h]
    exact e.identifiers_enrichAll p.added
  · rw [enriched_of_fault e h]

theorem notes_enriched (e : Enricher) (p : Report ν) : (p.enriched e).notes = p.notes := by
  rcases h : p.fault with _ | fault
  · rw [enriched, h]
  · rw [enriched_of_fault e h]

end Report

/-! ## Labels -/

/-- Where there is no label to put, failures stay as they are. -/
theorem Overrides.accepts_of_isNone {o : Overrides} (h : o.isNone = true) (f : Failure) :
    o.stamp.Accepts f f := by
  obtain ⟨_ | _, _ | _, _ | _, _ | _⟩ := o <;> first | exact ⟨rfl, rfl⟩ | cases h

namespace Rule

variable {ν : Type}

/-- A rule with labels reports what the rule reports, with the labels; without labels this changes
nothing. -/
theorem report_stamped (rule : Rule ν) (o : Overrides) (value : Value) (id : Option Identifier)
    (fs : List Failure) :
    (stamped rule o).report value id fs = (rule.report value id fs).enriched o.stamp := by
  rw [report]
  by_cases hnone : o.isNone = true
  · rw [if_pos hnone, Report.enriched_of_keeps (Overrides.accepts_of_isNone hnone)]
  · rw [if_neg hnone]

theorem report_of_labelled {rule labelled : Rule ν} {o : Overrides}
    (h : Rule.labelled (some rule) o = some labelled) (value : Value) (id : Option Identifier)
    (fs : List Failure) :
    labelled.report value id fs = (rule.report value id fs).enriched o.stamp := by
  rw [Rule.labelled] at h
  by_cases hnone : o.isNone = true
  · obtain rfl := Option.some.inj ((if_pos hnone).symm.trans h)
    rw [Report.enriched_of_keeps (Overrides.accepts_of_isNone hnone)]
  · obtain rfl := Option.some.inj ((if_neg hnone).symm.trans h)
    exact report_stamped ..

theorem exists_labelled (rule : Rule ν) (o : Overrides) :
    ∃ labelled, Rule.labelled (some rule) o = some labelled := by
  by_cases hnone : o.isNone = true
  · exact ⟨rule, if_pos hnone⟩
  · exact ⟨stamped rule o, if_neg hnone⟩

/-! ## Runs -/

/-- **What an enriched rule leaves.** Let the rule alone add `added`. If it ends in a fault, it is
as if there were no enricher. If the enricher accepts all of `added`, what it makes of them stands
in their place. If it accepts the first `k` and refuses the next, those are enriched, the others
stay, and the run ends in the fault. In any case the elements of the failures are as the rule left
them, and the index tells the same as the list. -/
theorem withMetadata_run (actions : List (Action ν)) {i : Nat} {r : Result}
    (hr : (Forest.after actions).view i = some r) (rule : Rule ν) (e : Enricher) (value : Value)
    (id : Option Identifier) :
    let o := rule.run value id r
    let w := (withMetadata rule e).run value id r
    ∃ added, o.result.failures = r.failures ++ added ∧
      (∀ fault, o.fault = some fault → w = o) ∧
      (o.fault = none → ∀ gs, List.Forall₂ e.Accepts added gs →
        w.result.failures = r.failures ++ gs ∧ w.fault = none) ∧
      (o.fault = none → ∀ k f gs fault, added[k]? = some f →
        List.Forall₂ e.Accepts (added.take k) gs → e.Refuses f fault →
        w.result.failures = r.failures ++ (gs ++ added.drop k) ∧ w.fault = some fault ∧
          (e f = .ok none → fault.family = .kind) ∧
          ∀ g, e f = .ok (some g) → fault.family = .value) ∧
      w.result.failures.map (·.identifier) = o.result.failures.map (·.identifier) ∧
      w.result.answers = Answers.ofFailures w.result.failures ∧ w.notes = o.notes := by
  have hc : r.Consistent := Forest.consistent_of_view_after hr
  rw [rule.run_eq_report value id hc, (withMetadata rule e).run_eq_report value id hc, report]
  generalize rule.report value id r.failures = p
  refine ⟨p.added, Result.failures_addAll .., ?_, ?_, ?_, ?_, ?_, Report.notes_enriched e p⟩
  · intro fault hfault
    rw [Report.enriched_of_fault e hfault]
  · intro hfault gs hgs
    rw [Report.enriched_of_accepts hfault hgs]
    exact ⟨Result.failures_addAll .., rfl⟩
  · intro hfault k f gs fault hk hgs hf
    rw [Report.enriched_of_refuses hfault hk hgs hf]
    exact ⟨Result.failures_addAll .., rfl, hf.family⟩
  · rw [Report.onto, Report.onto, Result.failures_addAll, Result.failures_addAll,
      List.map_append, List.map_append, Report.identifiers_enriched]
  · exact (hc.addAll _).answers_eq

/-- Puts a group on failures until it comes to one with the code `stop`. -/
def sampleEnricher : Enricher := fun f =>
  if f.code = "stop" then .ok none else .ok (some (f.withGroup (some "group")))

def sampleRule : Rule Unit :=
  .chainAlways (.fail (.sample .path "g"))
    (.chainAlways (.fail (.sample .field "stop")) (.fail (.sample .path "h")))

/-- On a scope, the enricher comes as far as the second of three failures. -/
theorem withMetadata_run_sampleScope :
    let w := (withMetadata sampleRule sampleEnricher).run .null none sampleScope
    (Forest.after sampleActions).view 1 = some sampleScope ∧
      w.result.failures = sampleScope.failures ++
        [(Failure.sample .path "g").withGroup (some "group"), .sample .field "stop",
          .sample .path "h"] ∧
      w.fault = some .enrichedNothing := by
  have hview : (Forest.after sampleActions).view 1 = some sampleScope := rfl
  obtain ⟨added, hadded, -, -, hrefused, -⟩ :=
    withMetadata_run sampleActions hview sampleRule sampleEnricher .null none
  have hrun : (sampleRule.run .null none sampleScope).result.failures =
      sampleScope.failures ++
        [.sample .path "g", .sample .field "stop", .sample .path "h"] := rfl
  obtain rfl := List.append_cancel_left (hrun.symm.trans hadded)
  obtain ⟨hfailures, hfault, -⟩ := hrefused rfl 1 (.sample .field "stop")
    [(Failure.sample .path "g").withGroup (some "group")] .enrichedNothing rfl
    (.cons ⟨rfl, rfl⟩ .nil) (.givesNothing rfl)
  exact ⟨hview, hfailures, hfault⟩

end Rule

end Verdict
