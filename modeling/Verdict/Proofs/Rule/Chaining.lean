import Verdict.Proofs.Check.Building
import Verdict.Proofs.Result.History
import Verdict.Proofs.Rule.Outcome
import Verdict.Proofs.Rule.Trace

/-!
# Chains of rules

A chain runs its second rule only if the element has no failure after the first, and each of the two
may be a chain itself. How the chains are nested makes no difference: `Rule.run_of_bracketing` says
that every way of bracketing rules is the loop that runs the first rule and then each further one as
long as the element is clean (`Rule.whileClean`). What carries the proof is that a loop that ended
early is not taken up again by the chains around it, for they ask the same question once more
(`Rule.whileClean_append`).

Of a chain of built-in checks, the first that does not pass decides: it is the only one whose run
changes anything (`Rule.whileClean_checks`).
-/

namespace Verdict

/-! ## Loops -/

/-- Adding failures leaves no element clean that was not. -/
theorem Result.Consistent.hasErrorFor_addAll {r : Result} (hr : r.Consistent)
    {id : Option Identifier} (h : r.hasErrorFor id = true) (fs : List Failure) :
    (r.addAll fs).hasErrorFor id = true := by
  rw [hr.hasErrorFor_eq] at h
  rw [(hr.addAll fs).hasErrorFor_eq, failures_addAll]
  simp only [Answers.ofFailures, List.any_append, Bool.or_eq_true] at h ⊢
  exact .inl h

namespace Rule

variable {ν : Type} {value : Value} {id : Option Identifier} {r : Result}

/-- The rule chains the rules in their order, bracketed in one way or another. -/
inductive Bracketing : List (Rule ν) → Rule ν → Prop where
  | single (rule : Rule ν) : Bracketing [rule] rule
  | chain {rules more : List (Rule ν)} {first second : Rule ν} (hf : Bracketing rules first)
    (hs : Bracketing more second) : Bracketing (rules ++ more) (chain first second)

/-- Runs rules one after the other, as long as the element is clean. -/
def whileClean (value : Value) (id : Option Identifier) : List (Rule ν) → Result → Outcome ν
  | [], r => .done r
  | rule :: rest, r =>
    if r.hasErrorFor id then .done r
    else (rule.run value id r).andThen (whileClean value id rest)

theorem whileClean_of_hasErrorFor (h : r.hasErrorFor id = true) (rules : List (Rule ν)) :
    whileClean value id rules r = .done r := by
  cases rules with
  | nil => rfl
  | cons rule rest => exact if_pos h

theorem whileClean_cons_of_clean (h : r.hasErrorFor id = false) (rule : Rule ν)
    (rest : List (Rule ν)) : whileClean value id (rule :: rest) r =
      (rule.run value id r).andThen (whileClean value id rest) :=
  if_neg (by rw [h]; exact Bool.false_ne_true)

/-- The loop can be left and taken up again anywhere. -/
theorem whileClean_append (rules more : List (Rule ν)) (r : Result) :
    whileClean value id (rules ++ more) r =
      (whileClean value id rules r).andThen (whileClean value id more) := by
  induction rules generalizing r with
  | nil => rfl
  | cons rule rest ih =>
    rcases h : r.hasErrorFor id with _ | _
    · rw [List.cons_append, whileClean_cons_of_clean h, whileClean_cons_of_clean h,
        Outcome.andThen_assoc, funext ih]
    · rw [whileClean_of_hasErrorFor h, whileClean_of_hasErrorFor h, Outcome.done_andThen,
        whileClean_of_hasErrorFor h]

theorem Bracketing.ne_nil {rules : List (Rule ν)} {rule : Rule ν} (h : Bracketing rules rule) :
    rules ≠ [] := by
  induction h with
  | single rule => exact List.cons_ne_nil _ _
  | chain _ _ ihf _ => exact List.append_ne_nil_of_left_ne_nil ihf _

/-- The first of the rules in any case, and the others as long as the element is clean. -/
def inTurn (value : Value) (id : Option Identifier) : List (Rule ν) → Result → Outcome ν
  | [], r => .done r
  | rule :: rest, r => (rule.run value id r).andThen (whileClean value id rest)

/-- The loop asks before its first rule what a chain asks before its second. -/
theorem whileClean_eq_unless {rules : List (Rule ν)} (h : rules ≠ []) (r : Result) :
    whileClean value id rules r =
      if r.hasErrorFor id then .done r else inTurn value id rules r := by
  obtain ⟨rule, rest, rfl⟩ := List.exists_cons_of_ne_nil h
  rfl

theorem inTurn_append {rules : List (Rule ν)} (h : rules ≠ []) (more : List (Rule ν))
    (r : Result) : inTurn value id (rules ++ more) r =
      (inTurn value id rules r).andThen (whileClean value id more) := by
  obtain ⟨rule, rest, rfl⟩ := List.exists_cons_of_ne_nil h
  rw [List.cons_append, inTurn, inTurn, Outcome.andThen_assoc,
    funext (whileClean_append rest more)]

/-- **Brackets make no difference**: rules that are chained in any way run in turn. -/
theorem run_of_bracketing {rules : List (Rule ν)} {rule : Rule ν} (h : Bracketing rules rule)
    (r : Result) : rule.run value id r = inTurn value id rules r := by
  induction h generalizing r with
  | single rule => exact (Outcome.andThen_of_done fun _ => rfl).symm
  | chain hf hs ihf ihs =>
    rw [inTurn_append hf.ne_nil, run, ihf, funext (whileClean_eq_unless hs.ne_nil), funext ihs]

/-- A traced chain chains the traced rules. -/
theorem Bracketing.traced {rules : List (Rule ν)} {rule : Rule ν} (h : Bracketing rules rule)
    (place : List Bool) : ∃ ts, Bracketing ts (rule.traced place) ∧
      List.Forall₂ (fun t rule => ∃ place, t = rule.traced place) ts rules := by
  induction h generalizing place with
  | single rule => exact ⟨_, .single _, .cons ⟨place, rfl⟩ .nil⟩
  | chain _ _ ihf ihs =>
    obtain ⟨ts, hf, hts⟩ := ihf (false :: place)
    obtain ⟨us, hs, hus⟩ := ihs (true :: place)
    exact ⟨ts ++ us, .chain hf hs, List.rel_append hts hus⟩

/-- If the element has a failure already, the first of the rules is the only one that is run. -/
theorem run_of_bracketing_of_hasErrorFor {first : Rule ν} {rest : List (Rule ν)} {rule : Rule ν}
    (h : Bracketing (first :: rest) rule) (hr : r.Consistent) (herror : r.hasErrorFor id = true) :
    rule.run value id r = first.run value id r := by
  rw [run_of_bracketing h, inTurn]
  refine Outcome.andThen_of_done fun _ => ?_
  rw [first.run_result value id hr]
  exact whileClean_of_hasErrorFor (hr.hasErrorFor_addAll herror _) rest

end Rule

/-! ## Checks -/

namespace Check

variable {ν : Type} {c : Check} {value : Value} {id : Option Identifier} {r : Result}

/-- Whether the value passes the check. A value of which the check cannot be asked does not. -/
def passes (c : Check) (value : Value) : Bool :=
  match c.answer value with
  | .ok true => true
  | _ => false

theorem run_of_passes (h : c.passes value = true) :
    (Rule.check c : Rule ν).run value id r = .done r := by
  rw [passes] at h
  split at h
  next hpass => rw [Rule.run, judge_eq, hpass]; rfl
  next => cases h

/-- There is no failure without an element. -/
theorem exists_failure_eq_error (c : Check) (value : Value) :
    ∃ fault, c.failure value none = .error fault := by
  rw [failure_eq, Shape.failure]
  rcases c.shape.prepare with fault | _
  · exact ⟨fault, rfl⟩
  · exact ⟨.identifierMissing, rfl⟩

/-- A check that a value does not pass either ends the run or leaves its failure, which is one of
the element. -/
theorem Built.run_of_not_passes {obstacle : Option Fault} (h : c.Built obstacle) (hr : r.Consistent)
    (hpasses : c.passes value = false) (ν : Type) (id : Option Identifier) :
    (∃ fault, (Rule.check c : Rule ν).run value id r = .stopped r fault) ∨
      ∃ f, c.failure value id = .ok f ∧ (Rule.check c : Rule ν).run value id r = .done (r.add f) ∧
        (r.add f).hasErrorFor id = true := by
  simp only [Rule.run, judge_eq]
  rcases hanswer : c.answer value with fault | _ | _
  · exact .inl ⟨fault, rfl⟩
  · cases id with
    | none =>
      obtain ⟨fault, hfault⟩ := c.exists_failure_eq_error value
      refine .inl ⟨fault, ?_⟩
      simp only [Except.bind, hfault]
      rfl
    | some element =>
      obtain ⟨f, hf, hreports⟩ | ⟨fault, -, hfault⟩ := h.failure_cases value element
      · refine .inr ⟨f, hf, ?_, ?_⟩
        · simp only [Except.bind, hf]
          rfl
        · rw [(hr.add f).hasErrorFor_eq, Result.failures_add]
          simp [Answers.ofFailures, hreports.identifier]
      · refine .inl ⟨fault, ?_⟩
        simp only [Except.bind, hfault]
        rfl
  · rw [passes, hanswer] at hpasses
    cases hpasses

end Check

namespace Rule

variable {μ ν : Type} {value : Value} {id : Option Identifier} {r : Result}

/-- On a clean element, a loop over checks comes to what the first of them that does not pass comes
to alone. -/
theorem whileClean_checks {cs : List Check} (hbuilt : ∀ c ∈ cs, ∃ obstacle, c.Built obstacle)
    (hr : r.Consistent) (hclean : r.hasErrorFor id = false) :
    whileClean value id (cs.map (check : Check → Rule ν)) r =
      (cs.find? fun c => !c.passes value).elim (.done r) fun c => (check c).run value id r := by
  induction cs with
  | nil => rfl
  | cons c rest ih =>
    obtain ⟨⟨_, hc⟩, hrest⟩ := List.forall_mem_cons.mp hbuilt
    rw [List.map_cons, whileClean_cons_of_clean hclean, List.find?_cons]
    rcases hpasses : c.passes value with _ | _
    · refine Outcome.andThen_of_done fun hfault => ?_
      obtain ⟨fault, hrun⟩ | ⟨f, -, hrun, herror⟩ := hc.run_of_not_passes hr hpasses ν id
      · rw [hrun] at hfault
        cases hfault
      · rw [hrun]
        exact whileClean_of_hasErrorFor herror _
    · rw [Check.run_of_passes hpasses, Outcome.done_andThen]
      exact ih hrest

/-- What such a loop adds is one failure at most, that of the first check that does not pass. -/
theorem exists_added_whileClean_checks {cs : List Check}
    (hbuilt : ∀ c ∈ cs, ∃ obstacle, c.Built obstacle) (hr : r.Consistent)
    (hclean : r.hasErrorFor id = false) :
    ∃ added, (whileClean value id (cs.map (check : Check → Rule ν)) r).result.failures =
        r.failures ++ added ∧ added.length ≤ 1 ∧
      ∀ f ∈ added, ∃ c, (cs.find? fun c => !c.passes value) = some c ∧
        c.failure value id = .ok f := by
  have hnothing : r.failures = r.failures ++ [] := (List.append_nil _).symm
  rw [whileClean_checks hbuilt hr hclean]
  generalize hfound : (cs.find? fun c => !c.passes value) = found
  cases found with
  | none => exact ⟨[], hnothing, Nat.zero_le 1, fun _ hf => (List.not_mem_nil hf).elim⟩
  | some c =>
    have hpasses : c.passes value = false := by
      simpa using List.find?_some hfound
    obtain ⟨_, hc⟩ := hbuilt c (List.mem_of_find?_eq_some hfound)
    rw [Option.elim_some]
    obtain ⟨fault, hrun⟩ | ⟨f, hf, hrun, -⟩ := hc.run_of_not_passes hr hpasses ν id
    · rw [hrun]
      exact ⟨[], hnothing, Nat.zero_le 1, fun _ hf => (List.not_mem_nil hf).elim⟩
    · rw [hrun]
      exact ⟨[f], r.failures_add f, Nat.le_refl 1, List.forall_mem_singleton.mpr ⟨c, rfl, hf⟩⟩

/-- **A chain is a loop that stops at the first failure**, however it is bracketed: the first rule
is run, and each further one as long as the element has no failure. This is so to the last detail
of the run, also of a traced one, which tells all that is run. Hence, if the element has a failure
already, the first rule is run and no other. If it has none and all rules are built-in checks, the
chain comes to what the first of them comes to alone that the value does not pass; so there is one
failure at most, and it is the failure of that check. -/
theorem chained_run (actions : List (Action μ)) {i : Nat} {r : Result}
    (hr : (Forest.after actions).view i = some r) {first rule : Rule ν} {rest : List (Rule ν)}
    (h : Bracketing (first :: rest) rule) (value : Value) (id : Option Identifier) :
    let o := rule.run value id r
    let t := (rule.traced []).run value id r
    o = (first.run value id r).andThen (whileClean value id rest) ∧
      (r.hasErrorFor id = true → o = first.run value id r) ∧
      (∃ one more, List.Forall₂ (fun t rule => ∃ place, t = rule.traced place) (one :: more)
          (first :: rest) ∧
        t = (one.run value id r).andThen (whileClean value id more) ∧
        (r.hasErrorFor id = true → t = one.run value id r)) ∧
      ∀ cs : List Check, first :: rest = cs.map check →
        (∀ c ∈ cs, ∃ request : Request, request.build = .ok c) → r.hasErrorFor id = false →
        o = ((cs.find? fun c => !c.passes value).elim (.done r) fun c =>
          (check c).run value id r) ∧
        ∃ added, o.result.failures = r.failures ++ added ∧ added.length ≤ 1 ∧
          ∀ f ∈ added, ∃ c, (cs.find? fun c => !c.passes value) = some c ∧
            c.failure value id = .ok f := by
  have hc : r.Consistent := Forest.consistent_of_view_after hr
  intro o t
  refine ⟨run_of_bracketing h r, run_of_bracketing_of_hasErrorFor h hc, ?_, ?_⟩
  · obtain ⟨ts, ht, hts⟩ := h.traced []
    obtain ⟨one, more, rfl⟩ := List.exists_cons_of_ne_nil ht.ne_nil
    exact ⟨one, more, hts, run_of_bracketing ht r, run_of_bracketing_of_hasErrorFor ht hc⟩
  · intro cs hcs hrequests hclean
    have hbuilt : ∀ c ∈ cs, ∃ obstacle, c.Built obstacle := fun c hmem => by
      obtain ⟨request, hrequest⟩ := hrequests c hmem
      exact ⟨request.obstacle?, Request.built_of_build hrequest⟩
    -- on a clean element the first rule is one of the loop, too
    have hloop : o = whileClean value id (cs.map check) r := by
      rw [← hcs, whileClean_cons_of_clean hclean]
      exact run_of_bracketing h r
    rw [hloop]
    exact ⟨whileClean_checks hbuilt hc hclean, exists_added_whileClean_checks hbuilt hc hclean⟩

/-- A positive number passes the first of three checks, the second refuses it, and the third cannot
be asked of it. An element without failures gets that of the second, and on one that has failures
already nothing is run but the first. -/
theorem chained_run_threeChecks :
    let positive : Check := .flag .positive fun v => v.related .above (.int 0)
    let negative : Check := .flag .negative fun v => v.related .below (.int 0)
    let apart : Check := .flag .noDuplicates fun v => v.parts?.map fun items => !repeatsAny [] items
    let rule : Rule String := .chain (.chain (.check positive) (.check negative)) (.check apart)
    let clean : Option Identifier := some ⟨.field, "age"⟩
    let failed : Option Identifier := some ⟨.path, ""⟩
    (Forest.after sampleActions).view 1 = some sampleScope ∧
      Bracketing [.check positive, .check negative, .check apart] rule ∧
      (∀ c ∈ [positive, negative, apart], ∃ request : Request, request.build = .ok c) ∧
      sampleScope.hasErrorFor clean = false ∧ sampleScope.hasErrorFor failed = true ∧
      apart.answer (.int 5) = .error .unsupported ∧
      rule.run (.int 5) clean sampleScope = (check negative).run (.int 5) clean sampleScope ∧
      (rule.run (.int 5) clean sampleScope).result.failures.map (·.code) =
        ["a", "c", "b", "e", "number.negative"] ∧
      rule.run (.int 5) failed sampleScope = (check positive).run (.int 5) failed sampleScope := by
  intro positive negative apart rule clean failed
  have hview : (Forest.after sampleActions).view 1 = some sampleScope := rfl
  have hrules : Bracketing [.check positive, .check negative, .check apart] rule :=
    .chain (.chain (.single _) (.single _)) (.single _)
  have hbuilt : ∀ c ∈ [positive, negative, apart],
      ∃ request : Request, request.build = .ok c := by
    simp only [List.forall_mem_cons]
    exact ⟨⟨.number .positive, rfl⟩, ⟨.number .negative, rfl⟩, ⟨.collection .noDuplicates, rfl⟩,
      fun _ h => (List.not_mem_nil h).elim⟩
  have hclean : sampleScope.hasErrorFor clean = false := by decide +kernel
  have hfailed : sampleScope.hasErrorFor failed = true := by decide +kernel
  have hpositive : positive.passes (.int 5) = true := by decide +kernel
  have hnegative : negative.passes (.int 5) = false := by decide +kernel
  have hfound :
      ([positive, negative, apart].find? fun c => !c.passes (.int 5)) = some negative := by
    rw [List.find?_cons_of_neg (by simp [hpositive]), List.find?_cons_of_pos (by simp [hnegative])]
  obtain ⟨-, -, -, hchecks⟩ := chained_run sampleActions hview hrules (.int 5) clean
  obtain ⟨-, hfirst, -, -⟩ := chained_run sampleActions hview hrules (.int 5) failed
  obtain ⟨hdecides, -⟩ := hchecks [positive, negative, apart] rfl hbuilt hclean
  rw [hfound, Option.elim_some] at hdecides
  exact ⟨hview, hrules, hbuilt, hclean, hfailed, rfl, hdecides, by decide +kernel, hfirst hfailed⟩

end Rule

end Verdict
