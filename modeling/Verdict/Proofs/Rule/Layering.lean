import Verdict.Proofs.Result.History

/-!
# Rules over layered results

A rule only ever adds: what stood in a result before the run stands there afterwards, in its place
and unchanged, even when the run ends in a fault, and the results that a scope is laid over are not
touched (`run_keeps_earlier`).

Nor can a rule tell how a result is layered. A scope over a result and a plain result that already
holds the same failures give the same runs, and answer the same questions in the same way after
each of them (`scope_refines_preloaded`). All that has to be kept from run to run is that both see
the same failures; `Refines.of_same_failures` says that this is enough for the next one.
-/

namespace Verdict

namespace Rule

variable {ν : Type}

/-- **A run keeps what was there**: after any history, a rule that is run on a result leaves the
earlier failures of it as they were, as the first ones, and every earlier result as it was. The
parent of the result is one of these, and so are the parents of that. -/
theorem run_keeps_earlier (actions : List (Action ν)) {i : Nat} {r : Result}
    (hr : (Forest.after actions).view i = some r) (rule : Rule ν) (value : Value)
    (id : Option Identifier) :
    (Forest.after (actions ++ [.run i rule value id])).view i =
        some (rule.run value id r).result ∧
      r.failures <+: (rule.run value id r).result.failures ∧
      (rule.run value id r).result.parent? = r.parent? ∧
      (∀ j < i, (Forest.after (actions ++ [.run i rule value id])).view j =
        (Forest.after actions).view j) ∧
      ∀ parent, r.parent? = some parent → ∃ j < i,
        (Forest.after (actions ++ [.run i rule value id])).view j = some parent := by
  have hresult := rule.run_result value id (Forest.consistent_of_view_after hr)
  have hafter : Forest.after (actions ++ [.run i rule value id]) =
      (Forest.after actions).setOwn i (rule.run value id r).result.own := by
    rw [Forest.after_concat, Forest.act, hr]
  rw [hafter, hresult]
  refine ⟨?_, ?_, Result.parent?_addAll .., fun j hj => Forest.view_setOwn_of_lt _ _ hj,
    fun parent hp => ?_⟩
  · rw [Forest.view_setOwn_self hr, Result.addAll_eq_withOwn, Result.own_withOwn]
  · rw [Result.failures_addAll]
    exact List.prefix_append ..
  · obtain ⟨j, hj, hview⟩ := Forest.exists_view_parent hr hp
    exact ⟨j, hj, by rw [Forest.view_setOwn_of_lt _ _ hj, hview]⟩

/-- Two failures, of which the enricher refuses the second. -/
def sampleHalf : Rule Unit :=
  .withMetadata (.chainAlways (.fail (.sample .path "g")) (.fail (.sample .field "h")))
    fun f => if f.code = "h" then .error .overflow else .ok (some (f.withGroup (some "group")))

/-- A run that ends half way leaves the scope's earlier failures and its parent alone. -/
theorem run_keeps_earlier_sampleScope :
    let o := sampleHalf.run .null none sampleScope
    let f := Forest.after (sampleActions ++ [.run 1 sampleHalf .null none])
    (Forest.after sampleActions).view 1 = some sampleScope ∧
      o.fault = some .overflow ∧ f.view 1 = some o.result ∧
      sampleScope.failures <+: o.result.failures ∧
      f.view 0 = (Forest.after sampleActions).view 0 := by
  have hview : (Forest.after sampleActions).view 1 = some sampleScope := rfl
  obtain ⟨hafter, hfailures, -, hearlier, -⟩ :=
    run_keeps_earlier sampleActions hview sampleHalf .null none
  exact ⟨hview, rfl, hafter, hfailures, hearlier 0 Nat.zero_lt_one⟩

/-! ## Scopes -/

/-- A rule with what it is run on. -/
structure Call (ν : Type) where
  rule : Rule ν
  value : Value
  identifier : Option Identifier

/-- The outcome of each of several runs, each on the result that the one before it left. -/
def runAll : List (Call ν) → Result → List (Outcome ν)
  | [], _ => []
  | c :: rest, r =>
    let o := c.rule.run c.value c.identifier r
    o :: runAll rest o.result

/-- What the outcome of a run on a scope over `parent` has in common with that of a run on a plain
result. -/
structure Refines (parent : Result) (layered plain : Outcome ν) : Prop where
  fault : layered.fault = plain.fault
  notes : layered.notes = plain.notes
  /-- All questions are answered in the same way. -/
  answers : layered.result.answers = plain.result.answers
  kept : layered.result.parent? = some parent
  /-- The failures of the scope are those after the failures of the parent. -/
  own : ∃ own, layered.result.scopedFailures? = some own ∧
    layered.result.failures = parent.failures ++ own

/-- A rule does the same on a scope and on a plain result that see the same failures. -/
theorem Refines.of_same_failures {parent r s : Result} (hr : r.Consistent) (hs : s.Consistent)
    (hp : r.parent? = some parent) (h : r.failures = s.failures) (rule : Rule ν) (value : Value)
    (id : Option Identifier) :
    Refines parent (rule.run value id r) (rule.run value id s) := by
  rw [rule.run_eq_report value id hr, rule.run_eq_report value id hs, h]
  generalize rule.report value id s.failures = p
  have hfailures : (r.addAll p.added).failures = (s.addAll p.added).failures := by
    rw [Result.failures_addAll, Result.failures_addAll, h]
  have hparent : (r.addAll p.added).parent? = some parent := by
    rw [Result.parent?_addAll, hp]
  refine ⟨rfl, rfl, ?_, hparent, ?_⟩
  · rw [Report.onto, Report.onto, (hr.addAll _).answers_eq, (hs.addAll _).answers_eq, hfailures]
  · rw [Report.onto]
    rcases hlayers : r.addAll p.added with l | ⟨q, l⟩
    · rw [hlayers] at hparent
      cases hparent
    · rw [hlayers] at hparent
      obtain rfl := Option.some.inj hparent
      exact ⟨l.entries, rfl, rfl⟩

/-- A step at a time, so do all runs of a list. -/
theorem forall₂_runAll {parent r s : Result} (hr : r.Consistent) (hs : s.Consistent)
    (hp : r.parent? = some parent) (h : r.failures = s.failures) (calls : List (Call ν)) :
    List.Forall₂ (Refines parent) (runAll calls r) (runAll calls s) := by
  induction calls generalizing r s with
  | nil => exact .nil
  | cons c rest ih =>
    have hstep := Refines.of_same_failures hr hs hp h c.rule c.value c.identifier
    refine .cons hstep (ih ?_ ?_ hstep.kept (congrArg Answers.failures hstep.answers))
    · rw [c.rule.run_result c.value c.identifier hr]
      exact hr.addAll _
    · rw [c.rule.run_result c.value c.identifier hs]
      exact hs.addAll _

/-- **A scope refines a preloaded plain result**: any rules, run one after the other on a scope over
a result and on a plain result that holds the failures of that result, end in the same faults,
leave the same notes and the same answers to all questions, one by one; the parent stays as it was,
and what the scope calls its own is what comes after the failures of the parent. -/
theorem scope_refines_preloaded (actions : List (Action ν)) {i : Nat} {parent : Result}
    (hp : (Forest.after actions).view i = some parent) (calls : List (Call ν)) :
    List.Forall₂ (Refines parent) (runAll calls (.layered parent .empty))
      (runAll calls (Result.empty.addAll parent.failures)) := by
  have hc : parent.Consistent := Forest.consistent_of_view_after hp
  have hscope : (Result.layered parent .empty).Consistent := ⟨hc, Ledger.consistent_empty⟩
  have hplain : (Result.empty.addAll parent.failures).Consistent :=
    Result.Consistent.addAll (r := .empty) Ledger.consistent_empty _
  refine forall₂_runAll hscope hplain rfl ?_ calls
  rw [Result.failures_addAll]
  exact List.append_nil _

/-- A rule that is only run while the parent's element is clean, and one that ends half way. -/
def sampleCalls : List (Call Unit) :=
  [⟨.chain .noop (.fail (.sample .path "k")), .null, some ⟨.path, ""⟩⟩,
    ⟨sampleHalf, .null, none⟩]

theorem scope_refines_preloaded_sampleCalls :
    (Forest.after sampleActions).view 1 = some sampleScope ∧
      (runAll sampleCalls (.layered sampleScope .empty)).map (·.fault) =
        [none, some .overflow] ∧
      List.Forall₂ (Refines sampleScope)
        (runAll sampleCalls (.layered sampleScope .empty))
        (runAll sampleCalls (Result.empty.addAll sampleScope.failures)) := by
  have hview : (Forest.after sampleActions).view 1 = some sampleScope := rfl
  exact ⟨hview, rfl, scope_refines_preloaded sampleActions hview sampleCalls⟩

end Rule

end Verdict
