import Verdict.Proofs.Rule.Report
import Verdict.Result.Forest

/-!
# Histories of results

Callers make results and scopes over earlier results, add failures to any of them, replace failures
and run rules, in any order; what a scope sees of its parent goes on changing. An `Action` is one
such step and `Forest.after` the forest after a list of them. What holds of every result in every
such forest holds of every result there can be.

The invariant is `Forest.Consistent`: every ledger in the forest is consistent. Each action keeps
it, accepted or refused (`Consistent.act`), so every result after any history is consistent, and
`Forest.view_after_answers` follows: whatever happened, the index and the list tell the same.
-/

namespace Verdict

/-- A step that callers can take with results, each named by its number. -/
inductive Action (ν : Type) where
  /-- A new result, or a scope over an earlier one. -/
  | create (parent : Option Nat)
  | add (i : Nat) (f : Failure)
  | replace (i : Nat) (index : Int) (f : Failure)
  | run (i : Nat) (rule : Rule ν) (value : Value) (id : Option Identifier)

namespace Forest

variable {ν : Type}

/-- The forest after an action, and the fault that the action ended in. A refused replacement
leaves the forest as it was; a run that ended in a fault leaves what it had added. -/
def act (f : Forest) : Action ν → Forest × Option Fault
  | .create parent => ((f.push parent).1, none)
  | .add i x => (f.add i x, none)
  | .replace i index x =>
    match f.replace i index x with
    | .ok f' => (f', none)
    | .error fault => (f, some fault)
  | .run i rule value id =>
    match f.view i with
    | none => (f, none)
    | some r =>
      let o := rule.run value id r
      (f.setOwn i o.result.own, o.fault)

/-- The forest after a history. -/
def after (actions : List (Action ν)) : Forest := actions.foldl (fun f a => (f.act a).1) []

theorem after_concat (actions : List (Action ν)) (a : Action ν) :
    after (actions ++ [a]) = ((after actions).act a).1 := List.foldl_concat ..

/-! ## Looking at a forest -/

/-- The latest result is its own ledger, over its parent as it is now. -/
theorem view_cons_length (layer : Layer) (earlier : Forest) :
    view (layer :: earlier) earlier.length =
      match layer.parent with
      | none => some (.plain layer.own)
      | some p => (view earlier p).map fun r => .layered r layer.own := by
  obtain ⟨_ | p, l⟩ := layer
  · exact if_pos rfl
  · exact if_pos rfl

/-- Other results are seen as if the latest were not there. -/
theorem view_cons_of_ne (layer : Layer) {earlier : Forest} {i : Nat} (h : i ≠ earlier.length) :
    view (layer :: earlier) i = view earlier i := by
  rw [view, if_neg h]

theorem setOwn_of_length_le {i : Nat} (own : Ledger) {f : Forest} (h : f.length ≤ i) :
    f.setOwn i own = f := by
  induction f with
  | nil => rfl
  | cons layer earlier ih =>
    rw [List.length_cons] at h
    rw [setOwn, if_neg (by omega), ih (by omega)]

theorem length_setOwn (i : Nat) (own : Ledger) (f : Forest) :
    (f.setOwn i own).length = f.length := by
  induction f with
  | nil => rfl
  | cons layer earlier ih =>
    by_cases h : i = earlier.length
    · rw [setOwn, if_pos h, List.length_cons, List.length_cons]
    · rw [setOwn, if_neg h, List.length_cons, List.length_cons, ih]

/-- The result that is changed is seen with its new ledger. -/
theorem view_setOwn_self {i : Nat} {own : Ledger} {f : Forest} {r : Result}
    (hv : f.view i = some r) : (f.setOwn i own).view i = some (r.withOwn own) := by
  induction f with
  | nil => cases hv
  | cons layer earlier ih =>
    obtain ⟨parent, l⟩ := layer
    by_cases h : i = earlier.length
    · subst h
      rw [view_cons_length] at hv
      rw [setOwn, if_pos rfl, view_cons_length]
      cases parent with
      | none =>
        obtain rfl := Option.some.inj hv
        rfl
      | some p =>
        obtain ⟨q, hq, rfl⟩ := Option.map_eq_some_iff.mp hv
        simp only [hq, Option.map_some]
        rfl
    · rw [view_cons_of_ne _ h] at hv
      rw [setOwn, if_neg h, view_cons_of_ne _ (by rwa [length_setOwn])]
      exact ih hv

/-- Earlier results do not see a change, so in particular no parent of the changed one does. -/
theorem view_setOwn_of_lt {i j : Nat} (own : Ledger) (f : Forest) (hj : j < i) :
    (f.setOwn i own).view j = f.view j := by
  induction f with
  | nil => rfl
  | cons layer earlier ih =>
    by_cases h : i = earlier.length
    · rw [setOwn, if_pos h, view_cons_of_ne _ (by omega), view_cons_of_ne _ (by omega)]
    · rw [setOwn, if_neg h]
      -- the latest result may be a scope over `i`, but then it is not the one looked at
      by_cases hi : i < earlier.length
      · rw [view_cons_of_ne _ (by rw [length_setOwn]; omega), view_cons_of_ne _ (by omega), ih]
      · rw [setOwn_of_length_le own (by omega)]

theorem lt_length_of_view {f : Forest} {i : Nat} {r : Result} (hv : f.view i = some r) :
    i < f.length := by
  induction f with
  | nil => cases hv
  | cons layer earlier ih =>
    rw [List.length_cons]
    by_cases h : i = earlier.length
    · omega
    · rw [view_cons_of_ne _ h] at hv
      exact Nat.lt_succ_of_lt (ih hv)

/-- The parent of a result is an earlier result. -/
theorem exists_view_parent {f : Forest} {i : Nat} {r parent : Result}
    (hv : f.view i = some r) (hp : r.parent? = some parent) :
    ∃ j < i, f.view j = some parent := by
  induction f with
  | nil => cases hv
  | cons layer earlier ih =>
    obtain ⟨p?, l⟩ := layer
    by_cases h : i = earlier.length
    · subst h
      rw [view_cons_length] at hv
      cases p? with
      | none =>
        obtain rfl := Option.some.inj hv
        cases hp
      | some p =>
        obtain ⟨q, hq, rfl⟩ := Option.map_eq_some_iff.mp hv
        obtain rfl := Option.some.inj hp
        have hlt := lt_length_of_view hq
        exact ⟨p, hlt, by rw [view_cons_of_ne _ (by omega), hq]⟩
    · rw [view_cons_of_ne _ h] at hv
      obtain ⟨j, hj, hview⟩ := ih hv
      have hlt := lt_length_of_view hview
      exact ⟨j, hj, by rw [view_cons_of_ne _ (by omega), hview]⟩

/-! ## The invariant -/

/-- Every ledger in the forest is consistent. -/
def Consistent (f : Forest) : Prop := ∀ layer ∈ f, layer.own.Consistent

/-- What is seen of a consistent forest is consistent. -/
theorem Consistent.view {f : Forest} (hf : f.Consistent) {i : Nat} {r : Result}
    (hv : f.view i = some r) : r.Consistent := by
  induction f generalizing i r with
  | nil => cases hv
  | cons layer earlier ih =>
    obtain ⟨parent, l⟩ := layer
    have hl : l.Consistent := hf _ List.mem_cons_self
    have hearlier : Consistent earlier := fun x hx => hf x (List.mem_cons_of_mem _ hx)
    by_cases h : i = earlier.length
    · subst h
      rw [view_cons_length] at hv
      cases parent with
      | none =>
        obtain rfl := Option.some.inj hv
        exact hl
      | some p =>
        obtain ⟨q, hq, rfl⟩ := Option.map_eq_some_iff.mp hv
        exact ⟨ih hearlier hq, hl⟩
    · rw [view_cons_of_ne _ h] at hv
      exact ih hearlier hv

/-- Putting a consistent ledger in place keeps the forest consistent. -/
theorem Consistent.setOwn {f : Forest} (hf : f.Consistent) (i : Nat) {own : Ledger}
    (ho : own.Consistent) : (f.setOwn i own).Consistent := by
  induction f with
  | nil => exact hf
  | cons layer earlier ih =>
    have hearlier : Consistent earlier := fun x hx => hf x (List.mem_cons_of_mem _ hx)
    by_cases h : i = earlier.length
    · rw [Forest.setOwn, if_pos h]
      exact List.forall_mem_cons.mpr ⟨ho, hearlier⟩
    · rw [Forest.setOwn, if_neg h]
      exact List.forall_mem_cons.mpr ⟨hf _ List.mem_cons_self, ih hearlier⟩

theorem consistent_nil : Consistent [] := fun _ hx => absurd hx List.not_mem_nil

/-- Every action keeps the forest consistent, also one that ends in a fault. -/
theorem Consistent.act {f : Forest} (hf : f.Consistent) (a : Action ν) :
    (f.act a).1.Consistent := by
  cases a with
  | create parent => exact List.forall_mem_cons.mpr ⟨Ledger.consistent_empty, hf⟩
  | add i x =>
    rw [Forest.act, Forest.add]
    rcases hv : f.view i with _ | r
    · exact hf
    · exact hf.setOwn i ((hf.view hv).add x).own
  | replace i index x =>
    rw [Forest.act, Forest.replace]
    rcases hv : f.view i with _ | r
    · exact hf
    · rcases hr : r.replace index x with fault | r'
      · simp only [hr, Except.map]
        exact hf
      · simp only [hr, Except.map]
        exact hf.setOwn i ((hf.view hv).replace hr).own
  | run i rule value id =>
    rw [Forest.act]
    rcases hv : f.view i with _ | r
    · exact hf
    · simp only [Rule.run_eq_report rule value id (hf.view hv)]
      exact hf.setOwn i ((hf.view hv).addAll _).own

/-- Every forest there can be is consistent. -/
theorem consistent_after (actions : List (Action ν)) : (after actions).Consistent := by
  induction actions using List.reverseRecOn with
  | nil => exact consistent_nil
  | append_singleton actions a ih =>
    rw [after_concat]
    exact ih.act a

/-- Every result there can be is consistent. -/
theorem consistent_of_view_after {actions : List (Action ν)} {i : Nat} {r : Result}
    (hr : (after actions).view i = some r) : r.Consistent :=
  (consistent_after actions).view hr

/-- **The list and the index never drift apart**: after any history, every result answers by
element as its list of failures does. -/
theorem view_after_answers (actions : List (Action ν)) {i : Nat} {r : Result}
    (hr : (after actions).view i = some r) :
    (∀ id, r.errorsFor id = r.failures.filter fun f => decide (some f.identifier = id)) ∧
    (∀ id, r.hasErrorFor id = true ↔
      (r.failures.filter fun f => decide (some f.identifier = id)) ≠ []) ∧
    r.byIdentifier = ((r.failures.map (·.identifier)).eraseDups.map
      fun id => (id, r.errorsFor (some id))) ∧
    r.size = r.failures.length ∧
    (r.hasErrors = true ↔ r.failures ≠ []) ∧
    r.blockingFailures = r.failures.filter (·.isBlocking) := by
  have hc : r.Consistent := consistent_of_view_after hr
  refine ⟨hc.errorsFor_eq, fun id => ?_, ?_, Result.size_eq_length r, ?_, rfl⟩
  · rw [hc.hasErrorFor_eq, Answers.ofFailures, List.any_eq_true, ne_eq, List.filter_eq_nil_iff]
    simp only [not_forall, not_not, exists_prop]
  · rw [hc.byIdentifier_eq, FailureIndex.eq_map_find (FailureIndex.nodup_keys_ofList _),
      FailureIndex.keys_ofList]
    refine List.map_congr_left fun id _ => ?_
    rw [FailureIndex.find_ofList, Result.errorsFor, hc.errorsOf_eq]
  · rw [Result.hasErrors_eq]
    cases r.failures <;> simp

end Forest

/-! ## A history -/

/-- A failure of an element of some kind. -/
def Failure.sample (kind : IdentifierKind) (code : String) : Failure :=
  { (default : Failure) with identifier := ⟨kind, ""⟩, code := code }

/-- A scope, its parent growing under it, and two replacements in the scope: the last failure,
which it owns, and the first, which it does not. -/
def sampleActions : List (Action Unit) :=
  [.create none, .add 0 (.sample .field "a"), .create (some 0), .add 1 (.sample .path "b"),
    .add 0 (.sample .path "c"), .add 1 (.sample .field "d"), .replace 1 (-1) (.sample .field "e"),
    .replace 1 0 (.sample .field "f")]

/-- The scope in the end. -/
def sampleScope : Result :=
  .layered (.plain (.ofEntries [.sample .field "a", .sample .path "c"]))
    (.ofEntries [.sample .path "b", .sample .field "e"])

/-- The parent's late failure comes before those of the scope, under its element and in the order
of the elements. -/
theorem view_after_sampleActions :
    (Forest.after sampleActions).view 1 = some sampleScope ∧
      sampleScope.errorsFor (some ⟨.path, ""⟩) = [.sample .path "c", .sample .path "b"] ∧
      sampleScope.byIdentifier =
        [(⟨.field, ""⟩, [.sample .field "a", .sample .field "e"]),
          (⟨.path, ""⟩, [.sample .path "c", .sample .path "b"])] := by
  have hview : (Forest.after sampleActions).view 1 = some sampleScope := rfl
  obtain ⟨herrors, -, hindex, -⟩ := Forest.view_after_answers sampleActions hview
  exact ⟨hview, herrors _, hindex⟩

end Verdict
