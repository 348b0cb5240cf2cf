import Verdict.Proofs.Result.Consistency
import Verdict.Rule

/-!
# What a rule reports

A rule changes a result in one way only: it adds failures to the result's own ledger. Which ones
depends on the failures that the result sees, and on nothing else of it. `Rule.report` says so: it
runs a rule over a plain list of earlier failures and gives those that the rule adds, the notes of
its watchers, and the fault that ended it.

`Rule.run_eq_report` is the bridge: on a consistent result, layered or not, a run is the report on
its failures, carried out. Enriching is the one place where a run touches failures again after they
were added; `enrichFrom_eq` says that this, too, is as if the enriched failures had been added.
-/

namespace Verdict

/-! ## Enriching a list -/

namespace Enricher

/-- What an enricher makes of a failure: another of the same element, or the fault that ends the
work. -/
def verdict (e : Enricher) (f : Failure) : Except Fault Failure :=
  match e f with
  | .error fault => .error fault
  | .ok none => .error .enrichedNothing
  | .ok (some g) =>
    if g.identifier = f.identifier then .ok g
    else .error (.replacementMismatch g.identifier f.identifier)

/-- The failures enriched one after the other; from the first on that gives a fault they stay. -/
def enrichAll (e : Enricher) : List Failure → List Failure × Option Fault
  | [] => ([], none)
  | f :: rest =>
    match e.verdict f with
    | .error fault => (f :: rest, some fault)
    | .ok g => (g :: (enrichAll e rest).1, (enrichAll e rest).2)

end Enricher

/-- Enriching failures that were added is as if the enriched ones had been added. -/
theorem enrichFrom_eq {r : Result} (h : r.Consistent) (e : Enricher) (before fs : List Failure) :
    enrichFrom e (r.size + before.length) fs (r.addAll (before ++ fs)) =
      (r.addAll (before ++ (e.enrichAll fs).1), (e.enrichAll fs).2) := by
  induction fs generalizing before with
  | nil => rfl
  | cons f rest ih =>
    rw [enrichFrom, Enricher.enrichAll, Enricher.verdict]
    rcases he : e f with fault | g
    · rfl
    · cases g with
      | none => rfl
      | some g =>
        simp only [h.replace_added before rest f g]
        by_cases hid : g.identifier = f.identifier
        · -- the rest is enriched with this one among those before it
          have hrest := ih (before ++ [g])
          rw [List.length_append, List.length_singleton, ← Nat.add_assoc, List.append_assoc,
            List.append_assoc, List.singleton_append, List.singleton_append] at hrest
          simp only [if_pos hid]
          exact hrest
        · simp only [if_neg hid]

/-! ## Reports -/

/-- What a rule adds, what its watchers note, and the fault that ended it. -/
structure Report (ν : Type) where
  added : List Failure
  notes : List ν
  fault : Option Fault

namespace Report

variable {ν : Type}

/-- Nothing to report. -/
def nothing : Report ν := ⟨[], [], none⟩

/-- A fault before anything was added. -/
def stopped (fault : Fault) : Report ν := ⟨[], [], some fault⟩

/-- A report over earlier failures and then another, over all failures by then, unless the first
ended in a fault. -/
def andThen (p : Report ν) (earlier : List Failure) (next : List Failure → Report ν) : Report ν :=
  match p.fault with
  | some _ => p
  | none =>
    let q := next (earlier ++ p.added)
    ⟨p.added ++ q.added, p.notes ++ q.notes, q.fault⟩

/-- One of two reports, as an answer decides; no answer is a fault. -/
def branch (answer : Except Fault Bool) (yes no : Report ν) : Report ν :=
  match answer with
  | .error fault => stopped fault
  | .ok true => yes
  | .ok false => no

/-- The report of a failure, if there is one. -/
def record : Except Fault (Option Failure) → Report ν
  | .error fault => stopped fault
  | .ok none => nothing
  | .ok (some f) => ⟨[f], [], none⟩

/-- The report with what it adds enriched. -/
def enriched (e : Enricher) (p : Report ν) : Report ν :=
  match p.fault with
  | some _ => p
  | none => ⟨(e.enrichAll p.added).1, p.notes, (e.enrichAll p.added).2⟩

/-- A report carried out on a result. -/
def onto (p : Report ν) (r : Result) : Outcome ν := ⟨r.addAll p.added, p.notes, p.fault⟩

/-- Nothing follows a fault. -/
theorem andThen_of_fault {p : Report ν} {fault : Fault} (h : p.fault = some fault)
    (earlier : List Failure) (next : List Failure → Report ν) : p.andThen earlier next = p := by
  rw [andThen, h]

theorem andThen_of_none {p : Report ν} (h : p.fault = none) (earlier : List Failure)
    (next : List Failure → Report ν) :
    p.andThen earlier next = ⟨p.added ++ (next (earlier ++ p.added)).added,
      p.notes ++ (next (earlier ++ p.added)).notes, (next (earlier ++ p.added)).fault⟩ := by
  rw [andThen, h]

theorem onto_nothing (r : Result) : (nothing : Report ν).onto r = .done r := rfl

/-- One of two reports is carried out as one of two runs. -/
theorem onto_branch (answer : Except Fault Bool) (yes no : Report ν) (r : Result) :
    (branch answer yes no).onto r = .branch answer r (yes.onto r) (no.onto r) := by
  rcases answer with fault | b
  · rfl
  · cases b <;> rfl

/-- A report that is made only if an answer is no. -/
theorem onto_unless (answer : Bool) (p : Report ν) (r : Result) :
    (if answer then nothing else p).onto r = if answer then .done r else p.onto r := by
  cases answer <;> rfl

theorem onto_record (answer : Except Fault (Option Failure)) (r : Result) :
    (record answer : Report ν).onto r = .record r answer := by
  rcases answer with fault | f
  · rfl
  · cases f <;> rfl

/-- Carrying out one report and then what follows is carrying out both together. -/
theorem onto_andThen (p : Report ν) {r : Result} (hr : r.Consistent)
    {next : Result → Outcome ν} {next' : List Failure → Report ν}
    (h : ∀ s : Result, s.Consistent → next s = (next' s.failures).onto s) :
    (p.andThen r.failures next').onto r = (p.onto r).andThen next := by
  obtain ⟨added, notes, fault⟩ := p
  cases fault with
  | some fault => rfl
  | none =>
    have hnext := h _ (hr.addAll added)
    rw [Result.failures_addAll] at hnext
    rw [andThen, Outcome.andThen]
    simp only [onto, hnext, Result.addAll_append]

/-- Carrying out an enriched report is enriching what was carried out. -/
theorem onto_enriched (p : Report ν) {r : Result} (hr : r.Consistent) (e : Enricher) :
    (p.enriched e).onto r = (p.onto r).enriched r.size e := by
  obtain ⟨added, notes, fault⟩ := p
  cases fault with
  | some fault => rfl
  | none =>
    -- the failures after the first `r.size` ones are those that were added
    have hdrop : (r.failures ++ added).drop r.size = added := by
      rw [Result.size_eq_length, List.drop_left]
    have henrich := enrichFrom_eq hr e [] added
    rw [List.nil_append, List.nil_append, List.length_nil, Nat.add_zero] at henrich
    rw [enriched, Outcome.enriched]
    simp only [onto, Result.failures_addAll, hdrop, henrich]

end Report

/-! ## The report of a rule -/

namespace Rule

variable {ν : Type}

/-- What a rule reports on a value for an element after earlier failures. -/
def report : Rule ν → Value → Option Identifier → List Failure → Report ν
  | check c, value, id, _ => .record (c.judge value id)
  | create skipsNull test factory, value, id, _ =>
    if skipsNull && value.isNull then .nothing
    else .branch (test value) .nothing (.record ((factory id).map some))
  | fail f, _, _, _ => ⟨[f], [], none⟩
  | noop, _, _, _ => .nothing
  | chain first second, value, id, fs =>
    (first.report value id fs).andThen fs fun fs =>
      if (Answers.ofFailures fs).hasErrorFor id then .nothing else second.report value id fs
  | chainAlways first second, value, id, fs =>
    (first.report value id fs).andThen fs fun fs => second.report value id fs
  | chainIf first condition second, value, id, fs =>
    (first.report value id fs).andThen fs fun fs =>
      if (Answers.ofFailures fs).hasErrorFor id then .nothing
      else .branch (condition value) (second.report value id fs) .nothing
  | chainIfClean first second elements, value, id, fs =>
    (first.report value id fs).andThen fs fun fs =>
      if elements.any (Answers.ofFailures fs).hasErrorFor then .nothing
      else second.report value id fs
  | skipIf rule condition, value, id, fs =>
    .branch (condition value) .nothing (rule.report value id fs)
  | named rule name, value, id, fs =>
    let p := rule.report value id fs
    { p with fault := p.fault.map (.execution name id) }
  | peek rule watcher, value, id, fs =>
    (rule.report value id fs).andThen fs fun fs =>
      match watcher ⟨value, Answers.ofFailures fs, id⟩ with
      | .error fault => .stopped fault
      | .ok notes => ⟨[], notes, none⟩
  | withMetadata rule enricher, value, id, fs => (rule.report value id fs).enriched enricher
  | stamped rule overrides, value, id, fs =>
    if overrides.isNone then rule.report value id fs
    else (rule.report value id fs).enriched overrides.stamp

/-- **A run is the report carried out**: on a consistent result, a rule adds what it reports on the
failures of the result. -/
theorem run_eq_report (rule : Rule ν) (value : Value) (id : Option Identifier) {r : Result}
    (hr : r.Consistent) : rule.run value id r = (rule.report value id r.failures).onto r := by
  induction rule generalizing r with
  | check c => exact (Report.onto_record _ r).symm
  | create skipsNull test factory =>
    rw [run, report, Report.onto_unless, Report.onto_branch, Report.onto_nothing,
      Report.onto_record]
  | fail f => rfl
  | noop => rfl
  | chain first second ihf ihs =>
    rw [run, report, ihf hr]
    refine (Report.onto_andThen _ hr fun s hs => ?_).symm
    rw [Report.onto_unless, hs.hasErrorFor_eq, ihs hs]
  | chainAlways first second ihf ihs =>
    rw [run, report, ihf hr]
    exact (Report.onto_andThen _ hr fun s hs => ihs hs).symm
  | chainIf first condition second ihf ihs =>
    rw [run, report, ihf hr]
    refine (Report.onto_andThen _ hr fun s hs => ?_).symm
    rw [Report.onto_unless, Report.onto_branch, Report.onto_nothing, hs.hasErrorFor_eq, ihs hs]
  | chainIfClean first second elements ihf ihs =>
    rw [run, report, ihf hr]
    refine (Report.onto_andThen _ hr fun s hs => ?_).symm
    rw [Report.onto_unless, funext hs.hasErrorFor_eq, ihs hs]
  | skipIf rule condition ih =>
    rw [run, report, ih hr, Report.onto_branch, Report.onto_nothing]
  | named rule name ih =>
    rw [run, report, ih hr]
    rfl
  | peek rule watcher ih =>
    rw [run, report, ih hr]
    refine (Report.onto_andThen _ hr fun s hs => ?_).symm
    rw [hs.answers_eq]
    rcases watcher ⟨value, Answers.ofFailures s.failures, id⟩ with fault | notes
    · rfl
    · rfl
  | withMetadata rule enricher ih =>
    rw [run, report, ih hr, Report.onto_enriched _ hr]
  | stamped rule overrides ih =>
    rw [run, report, ih hr]
    by_cases hnone : overrides.isNone = true
    · rw [if_pos hnone, if_pos hnone]
    · rw [if_neg hnone, if_neg hnone, Report.onto_enriched _ hr]

/-- What a run leaves is the result with what the rule reports added. -/
theorem run_result (rule : Rule ν) (value : Value) (id : Option Identifier) {r : Result}
    (hr : r.Consistent) :
    (rule.run value id r).result = r.addAll (rule.report value id r.failures).added := by
  rw [rule.run_eq_report value id hr, Report.onto]

end Rule

end Verdict
