import Verdict.Proofs.Rule.Confinement
import Verdict.Proofs.Session.Results

/-!
# Properties do not report for each other

Rules are applied to the selected properties of an object, each for the identifier of its property,
and all of them may report into one result. If such rules only report for the element they are run
for, applying them to one property leaves all that is told of other elements as it was: in the
result they report into, and in every scope that is laid over it.

`Forest.SameForOthers` says so of the results before and after. It is kept when failures of one
element are added to one result (`sameForOthers_setOwn`), hence by every use of such a rule
(`sameForOthers_apply`) and by any number of them one after the other (`sameForOthers_follow`).
-/

namespace Verdict

/-! ## Results -/

/-- What is told of an element depends on the own ledger only by what is found there. -/
theorem Result.errorsOf_withOwn {r : Result} {own : Ledger} {other : Identifier}
    (h : own.index.find other = r.own.index.find other) :
    (r.withOwn own).errorsOf other = r.errorsOf other := by
  cases r with
  | plain l => exact h
  | layered parent l => exact congrArg (parent.errorsOf other ++ ·) h

/-- Failures of other elements are not found. -/
theorem Result.Consistent.find_own_addAll {r : Result} (h : r.Consistent) {added : List Failure}
    {other : Identifier} (hadded : ∀ f ∈ added, f.identifier ≠ other) :
    (r.addAll added).own.index.find other = r.own.index.find other := by
  have hnone : added.filter (·.identifier = other) = [] := by
    rw [List.filter_eq_nil_iff]
    intro f hf
    simpa using hadded f hf
  have hbefore : r.own.index = FailureIndex.ofList r.own.entries := h.own
  have hafter : (r.addAll added).own.index = FailureIndex.ofList (r.own.entries ++ added) := by
    rw [← Result.entries_addAll]
    exact (h.addAll added).own
  rw [hbefore, hafter, FailureIndex.find_ofList, FailureIndex.find_ofList, List.filter_append,
    hnone, List.append_nil]

namespace Forest

/-- The results tell the same of all elements but one. -/
def SameForOthers (id : Option Identifier) (f g : Forest) : Prop :=
  ∀ j r, f.view j = some r → ∃ r', g.view j = some r' ∧
    ∀ other, some other ≠ id → r'.errorsOf other = r.errorsOf other

variable {id : Option Identifier} {f g h : Forest}

theorem SameForOthers.refl (f : Forest) : f.SameForOthers id f :=
  fun _ r hr => ⟨r, hr, fun _ _ => rfl⟩

theorem SameForOthers.trans (hfg : f.SameForOthers id g) (hgh : g.SameForOthers id h) :
    f.SameForOthers id h := by
  intro j r hr
  obtain ⟨r', hr', hsame⟩ := hfg j r hr
  obtain ⟨r'', hr'', hsame'⟩ := hgh j r' hr'
  exact ⟨r'', hr'', fun other hother => (hsame' other hother).trans (hsame other hother)⟩

/-- A change of one ledger that does not show for the other elements shows in no result, however it
is layered. -/
theorem sameForOthers_setOwn {i : Nat} {own : Ledger}
    (hown : ∀ r, f.view i = some r → ∀ other, some other ≠ id →
      own.index.find other = r.own.index.find other) : f.SameForOthers id (f.setOwn i own) := by
  induction f with
  | nil =>
    intro j r hr
    cases hr
  | cons layer earlier ih =>
    intro j r hr
    by_cases hij : i = j
    · subst hij
      exact ⟨r.withOwn own, view_setOwn_self hr, fun other hother =>
        Result.errorsOf_withOwn (hown r hr other hother)⟩
    by_cases hi : i = earlier.length
    · -- the latest ledger is changed, which only its own result shows
      have hj : j ≠ earlier.length := fun hj => hij (hi.trans hj.symm)
      rw [view_cons_of_ne _ hj] at hr
      refine ⟨r, ?_, fun _ _ => rfl⟩
      rw [setOwn, if_pos hi, view_cons_of_ne _ hj]
      exact hr
    · have hearlier := ih fun r hr => hown r ((view_cons_of_ne layer hi).trans hr)
      have hlength := length_setOwn i own earlier
      rw [setOwn, if_neg hi]
      by_cases hj : j = earlier.length
      · subst hj
        rw [view_cons_length] at hr
        rw [← hlength, view_cons_length]
        rcases hparent : layer.parent with _ | p
        · simp only [hparent] at hr ⊢
          exact ⟨r, hr, fun _ _ => rfl⟩
        · -- a scope shows what has become of its parent
          simp only [hparent] at hr ⊢
          obtain ⟨q, hq, rfl⟩ := Option.map_eq_some_iff.mp hr
          obtain ⟨q', hq', hsame⟩ := hearlier p q hq
          refine ⟨.layered q' layer.own, by rw [hq', Option.map_some], fun other hother => ?_⟩
          rw [Result.errorsOf, Result.errorsOf, hsame other hother]
      · rw [view_cons_of_ne _ hj] at hr
        rw [view_cons_of_ne _ (by rwa [hlength])]
        exact hearlier j r hr

end Forest

/-! ## Sessions -/

namespace Session

variable {ν : Type} {s : Session} {p : Nat} {selection : Selection}

/-- **One use** of a confined rule on a property. -/
theorem sameForOthers_apply (hs : s.results.Consistent)
    (hsel : s.selections[p]? = some selection) (guard : Guard) {rule : Rule ν}
    (hrule : rule.Confined) :
    s.results.SameForOthers selection.identifier (s.apply p guard rule).session.results := by
  rcases s.results_apply p guard rule with hsame | ⟨selection', i, r, hsel', hr, hran⟩
  · rw [hsame]
    exact .refl s.results
  · obtain rfl := Option.some.inj (hsel.symm.trans hsel')
    rw [hran]
    refine Forest.sameForOthers_setOwn fun r' hr' other hother => ?_
    obtain rfl := Option.some.inj (hr.symm.trans hr')
    have hc : r.Consistent := hs.view hr
    rw [Rule.run_result _ _ _ hc]
    refine hc.find_own_addAll fun f hf heq => hother ?_
    have hof : f.IsOf selection.identifier :=
      (hrule.wrap guard selection.identifier).adds selection.value selection.identifier _ f hf
    rw [← hof, heq]

/-- Several uses of rules on one property, in order. -/
def uses (p : Nat) (rules : List (Guard × Rule ν)) : List (Call ν) :=
  rules.map fun u => .apply p u.1 u.2

/-- **Any number of uses**: the property stays the same from one to the next. -/
theorem sameForOthers_follow (hs : s.results.Consistent)
    (hsel : s.selections[p]? = some selection) {rules : List (Guard × Rule ν)}
    (hrules : ∀ u ∈ rules, u.2.Confined) :
    s.results.SameForOthers selection.identifier (s.follow (uses p rules)).results := by
  induction rules generalizing s selection with
  | nil => exact .refl s.results
  | cons u rest ih =>
    obtain ⟨hu, hrest⟩ := List.forall_mem_cons.mp hrules
    have hstep := sameForOthers_apply hs hsel u.1 hu
    have hc : (s.apply p u.1 u.2).session.results.Consistent := (s.leadsTo_apply ..).consistent hs
    obtain ⟨selection', hsel', hbecomes, -⟩ :=
      (s.extends_act (.apply p u.1 u.2)).selections p selection hsel
    have hid : selection'.identifier = selection.identifier := by rw [hbecomes]
    have hmore := ih hc hsel' hrest
    rw [hid] at hmore
    exact hstep.trans hmore

/-- **Failures stay with their element.** In every session: what a confined rule adds to a result,
on any value and whether or not the run ends in a fault, is about the element that it is run for.
So applying such rules to a property, under guards of any kind and one after the other, changes for
no other element which failures of it there are or whether there are any, in no result. -/
theorem confined_after (calls : List (Call ν)) :
    let s := after calls
    (∀ i r, s.results.view i = some r → ∀ rule : Rule ν, rule.Confined → ∀ value id,
      ∃ added, (rule.run value id r).result.failures = r.failures ++ added ∧
        ∀ f ∈ added, some f.identifier = id) ∧
      ∀ p selection, s.selections[p]? = some selection →
        ∀ rules : List (Guard × Rule ν), (∀ u ∈ rules, u.2.Confined) →
          ∀ j r, s.results.view j = some r →
            ∃ r', (s.follow (uses p rules)).results.view j = some r' ∧
              ∀ other, other ≠ selection.identifier →
                r'.errorsFor other = r.errorsFor other ∧
                  r'.hasErrorFor other = r.hasErrorFor other := by
  intro s
  have hs : s.results.Consistent := consistent_after calls
  constructor
  · intro i r hr rule hrule value id
    exact Rule.exists_added (hrule.adds value id) (hs.view hr)
  · intro p selection hsel rules hrules j r hr
    obtain ⟨r', hr', hsame⟩ := sameForOthers_follow hs hsel hrules j r hr
    refine ⟨r', hr', fun other hother => ?_⟩
    cases other with
    | none => exact ⟨rfl, rfl⟩
    | some other =>
      have herrors : r'.errorsOf other = r.errorsOf other := hsame other hother
      refine ⟨herrors, ?_⟩
      rw [Result.hasErrorFor, Result.hasErrorFor, Result.hasErrorsOf_eq, Result.hasErrorsOf_eq,
        herrors]

/-- A property of an object whose result holds a failure of another element, and a scope over that
result. -/
def sampleProperty : List (Call Unit) :=
  [.openFresh (.text "object") false, .select 0 (some ⟨.field, "name"⟩) (.given (.text "a")),
    .openOver .null (some 0), .result (.add 0 (.sample .path "k"))]

/-- Two failures are reported; the enricher gives the second of them to the other element. -/
def sampleStray : Rule Unit :=
  .withMetadata
    (.chainAlways (.check (.flag .positive fun _ => .ok false))
      (.create false (fun _ => .ok false) fun id => Failure.create id (some "own") []))
    fun f =>
      if f.code = "own" then .ok (some { f with identifier := ⟨.path, ""⟩ })
      else .ok (some (f.withGroup (some "group")))

/-- Half way through the run, the stray failure is refused, and the other element is told to have
what it had. -/
theorem confined_after_sampleStray :
    let s := after sampleProperty
    let t := s.follow (uses 0 [(.always, sampleStray), (.whileClean, sampleStray)])
    let r : Result := .layered (.plain (.ofEntries [.sample .path "k"])) .empty
    let id : Option Identifier := some ⟨.field, "name"⟩
    s.results.view 1 = some r ∧ s.selections[0]? = some ⟨0, id, .text "a", false⟩ ∧
      sampleStray.Confined ∧
      (sampleStray.run (.int 0) id r).fault =
        some (.replacementMismatch ⟨.path, ""⟩ ⟨.field, "name"⟩) ∧
      (∃ added, (sampleStray.run (.int 0) id r).result.failures = r.failures ++ added ∧
        added.length = 2 ∧ ∀ f ∈ added, some f.identifier = id) ∧
      ∃ r', t.results.view 1 = some r' ∧ (r'.errorsFor id).length = 2 ∧
        r'.errorsFor (some ⟨.path, ""⟩) = [.sample .path "k"] ∧
        r'.hasErrorFor (some ⟨.path, ""⟩) = true := by
  intro s t r id
  have hview : s.results.view 1 = some r := rfl
  have hsel : s.selections[0]? = some ⟨0, id, .text "a", false⟩ := rfl
  have hconfined : sampleStray.Confined := by
    refine .withMetadata (.chainAlways (.check _) (.create _ _ ?_)) _
    intro id f hf
    obtain ⟨id', text, rfl, -, rfl, -⟩ := Failure.create_eq_ok hf
    rfl
  obtain ⟨hadds, hothers⟩ := confined_after sampleProperty
  obtain ⟨added, hadded, hof⟩ := hadds 1 r hview sampleStray hconfined (.int 0) id
  have hlength : added.length = 2 := by
    have hafter : (sampleStray.run (.int 0) id r).result.failures.length = 3 := rfl
    have hbefore : r.failures.length = 1 := rfl
    rw [hadded, List.length_append] at hafter
    omega
  obtain ⟨r', hr', hsame⟩ := hothers 0 _ hsel [(.always, sampleStray), (.whileClean, sampleStray)]
    (by simpa using hconfined) 1 r hview
  obtain ⟨herrors, hhas⟩ := hsame (some ⟨.path, ""⟩) (by decide)
  have hown : (t.results.view 1).map (fun r => (r.errorsFor id).length) = some 2 := rfl
  rw [hr'] at hown
  exact ⟨hview, hsel, hconfined, rfl, ⟨added, hadded, hlength, hof⟩, r', hr',
    Option.some.inj hown, herrors.trans rfl, hhas.trans rfl⟩

end Session

end Verdict
