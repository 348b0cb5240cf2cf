import Verdict.Proofs.Rule.Report

/-!
# What a run comes to

The leaves of a rule are the rules in it that have no parts: checks, conditions of the caller's own,
given failures and `noop`. Which leaves a run comes to, and in which order, depends on what it finds
on its way. `Rule.traced` is the rule with every leaf announced by a note right before it is run,
among the notes of the watchers.

The notes of a traced run tell what the run of the rule itself comes to, for announcing changes
nothing else: `traced_run` says that both leave the same result, that they end in the same fault,
and that the watchers note the same.
-/

namespace Verdict

/-- What is noted of a traced run. -/
inductive Event (ν : Type) where
  /-- A watcher noted something. -/
  | noted (note : ν)
  /-- The leaf at a place is run next. -/
  | reached (place : List Bool) (leaf : Rule ν)

/-- The note of a watcher, if it is one. -/
def Event.note? {ν : Type} : Event ν → Option ν
  | noted note => some note
  | reached _ _ => none

namespace Rule

variable {ν : Type}

/-- The rule after a note. -/
def announced (note : ν) (rule : Rule ν) : Rule ν :=
  chainAlways (peek noop fun _ => .ok [note]) rule

/-- The rule with every leaf announced. The place of a leaf says which part it is in, first or
second, of each rule around it that has two, from the inside out. -/
def traced (place : List Bool) : Rule ν → Rule (Event ν)
  | check c => announced (.reached place (check c)) (check c)
  | create skipsNull test factory =>
    announced (.reached place (create skipsNull test factory)) (create skipsNull test factory)
  | fail f => announced (.reached place (fail f)) (fail f)
  | noop => announced (.reached place noop) noop
  | chain first second => chain (first.traced (false :: place)) (second.traced (true :: place))
  | chainAlways first second =>
    chainAlways (first.traced (false :: place)) (second.traced (true :: place))
  | chainIf first condition second =>
    chainIf (first.traced (false :: place)) condition (second.traced (true :: place))
  | chainIfClean first second elements =>
    chainIfClean (first.traced (false :: place)) (second.traced (true :: place)) elements
  | skipIf rule condition => skipIf (rule.traced place) condition
  | named rule name => named (rule.traced place) name
  | peek rule watcher => peek (rule.traced place) fun s => (watcher s).map (·.map .noted)
  | withMetadata rule enricher => withMetadata (rule.traced place) enricher
  | stamped rule overrides => stamped (rule.traced place) overrides

end Rule

/-! ## Reports without the leaves -/

namespace Report

variable {ν : Type}

/-- A traced report without the leaves that were announced. -/
def untraced (p : Report (Event ν)) : Report ν :=
  ⟨p.added, p.notes.filterMap Event.note?, p.fault⟩

theorem untraced_record (answer : Except Fault (Option Failure)) :
    (record answer : Report (Event ν)).untraced = record answer := by
  rcases answer with fault | f
  · rfl
  · cases f <;> rfl

theorem untraced_branch (answer : Except Fault Bool) (yes no : Report (Event ν)) :
    (branch answer yes no).untraced = branch answer yes.untraced no.untraced := by
  rcases answer with fault | b
  · rfl
  · cases b <;> rfl

theorem untraced_unless (answer : Bool) (p : Report (Event ν)) :
    (if answer then nothing else p).untraced = if answer then nothing else p.untraced := by
  cases answer <;> rfl

theorem untraced_andThen (p : Report (Event ν)) (earlier : List Failure)
    (next : List Failure → Report (Event ν)) :
    (p.andThen earlier next).untraced =
      p.untraced.andThen earlier fun fs => (next fs).untraced := by
  obtain ⟨added, notes, fault⟩ := p
  cases fault with
  | some fault => rfl
  | none =>
    rw [andThen, andThen]
    simp only [untraced, List.filterMap_append]

theorem untraced_enriched (e : Enricher) (p : Report (Event ν)) :
    (p.enriched e).untraced = p.untraced.enriched e := by
  obtain ⟨added, notes, fault⟩ := p
  cases fault with
  | some fault => rfl
  | none => rfl

end Report

/-! ## Tracing -/

namespace Rule

variable {ν : Type}

/-- Announcing a leaf adds one note. -/
theorem report_announced (note : ν) (rule : Rule ν) (value : Value) (id : Option Identifier)
    (fs : List Failure) :
    (announced note rule).report value id fs =
      { rule.report value id fs with notes := note :: (rule.report value id fs).notes } := by
  have hfs : fs ++ [] = fs := List.append_nil fs
  change (Report.andThen ⟨[], [note], none⟩ fs fun fs => rule.report value id fs) = _
  rw [Report.andThen]
  simp only [hfs, List.nil_append, List.singleton_append]

/-- A traced rule reports what the rule does. -/
theorem untraced_report (rule : Rule ν) (place : List Bool) (value : Value)
    (id : Option Identifier) (fs : List Failure) :
    ((rule.traced place).report value id fs).untraced = rule.report value id fs := by
  induction rule generalizing place fs with
  | check c =>
    rw [traced, report_announced]
    exact Report.untraced_record _
  | create skipsNull test factory =>
    rw [traced, report_announced]
    change (report (create skipsNull test factory) value id fs).untraced = _
    rw [report, report, Report.untraced_unless, Report.untraced_branch, Report.untraced_record]
    rfl
  | fail f => rfl
  | noop => rfl
  | chain first second ihf ihs =>
    rw [traced, report, report, Report.untraced_andThen, ihf]
    simp only [Report.untraced_unless, ihs]
  | chainAlways first second ihf ihs =>
    rw [traced, report, report, Report.untraced_andThen, ihf]
    simp only [ihs]
  | chainIf first condition second ihf ihs =>
    rw [traced, report, report, Report.untraced_andThen, ihf]
    simp only [Report.untraced_unless, Report.untraced_branch, ihs]
    rfl
  | chainIfClean first second elements ihf ihs =>
    rw [traced, report, report, Report.untraced_andThen, ihf]
    simp only [Report.untraced_unless, ihs]
  | skipIf rule condition ih =>
    rw [traced, report, report, Report.untraced_branch, ih]
    rfl
  | named rule name ih =>
    rw [traced, report, report, ← ih place fs]
    rfl
  | peek rule watcher ih =>
    rw [traced, report, report, Report.untraced_andThen, ih]
    congr 1
    funext fs
    rcases watcher ⟨value, Answers.ofFailures fs, id⟩ with fault | notes
    · rfl
    · have hnotes : (notes.map Event.noted).filterMap Event.note? = notes := by
        rw [List.filterMap_map]
        exact List.filterMap_some
      exact congrArg (fun notes => (⟨[], notes, none⟩ : Report ν)) hnotes
  | withMetadata rule enricher ih =>
    rw [traced, report, report, Report.untraced_enriched, ih]
  | stamped rule overrides ih =>
    rw [traced, report, report]
    by_cases hnone : overrides.isNone = true
    · rw [if_pos hnone, if_pos hnone, ih]
    · rw [if_neg hnone, if_neg hnone, Report.untraced_enriched, ih]

/-- **Announcing changes nothing else**: a traced rule leaves what the rule leaves, ends as it does,
and its watchers note the same. -/
theorem traced_run (rule : Rule ν) (place : List Bool) (value : Value) (id : Option Identifier)
    {r : Result} (hr : r.Consistent) :
    let o := rule.run value id r
    let t := (rule.traced place).run value id r
    t.result = o.result ∧ t.notes.filterMap Event.note? = o.notes ∧ t.fault = o.fault := by
  rw [rule.run_eq_report value id hr, (rule.traced place).run_eq_report value id hr,
    ← rule.untraced_report place value id r.failures]
  exact ⟨rfl, rfl, rfl⟩

end Rule

end Verdict
