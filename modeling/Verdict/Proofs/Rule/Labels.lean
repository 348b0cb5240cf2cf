import Verdict.Proofs.Message.Desk
import Verdict.Proofs.Message.Slots
import Verdict.Proofs.Rule.Enrichment
import Verdict.Proofs.Rule.Trace

/-!
# Labels do not decide

Severity, category, group and blocking are labels: rules put them on failures, two of them also
among the parameters, and no rule asks for them. So a rule in which labels are put on failures, at
any depth, does what it does without: `Rule.unstamped` is the rule with nothing put on, and
`unstamped_run` compares the runs of both from any result. They come to the same leaves in the same
order, end in the same fault or none, and what they add is the same but for the labels. With the
built-in templates, which show no label, the messages are the same, too.

The comparison goes along the rule. During a run, the earlier failures that the parts see may
already differ in their labels; `Report.Alike` is kept by every way of putting rules together as
long as the earlier failures agree in all else.
-/

namespace Verdict

/-! ## Failures without labels -/

/-- The parameters that repeat labels. -/
def Parameter.labels : List String := [severity, category]

theorem Parameter.severity_mem_labels : severity ∈ labels := List.mem_cons_self

theorem Parameter.category_mem_labels : category ∈ labels :=
  List.mem_cons_of_mem _ List.mem_cons_self

/-- What of a failure labels do not change: its element and code, its other parameters, its time,
and the component and the code that the caller gave it. -/
def Failure.unlabelled (f : Failure) : Failure :=
  { f with
    parameters := f.parameters.without Parameter.labels
    severity := none
    category := none
    group := none
    blocking := none }

namespace Overrides

/-- The severity to put, if there is one, is one of the severities. -/
def Proper (o : Overrides) : Prop := ∀ label, o.severity = some label → ∃ s, label = .level s

/-- The labels that settings give are proper if every severity among the settings is one. -/
theorem proper_of_settings {settings : List LabelSetting}
    (h : ∀ label, .severity (some label) ∈ settings → ∃ s, label = .level s) :
    (settings.foldl set none).Proper := by
  have hset (o : Overrides) (ho : o.Proper) : (settings.foldl set o).Proper := by
    induction settings generalizing o with
    | nil => exact ho
    | cons setting rest ih =>
      refine ih (fun label hmem => h label (List.mem_cons_of_mem _ hmem)) _ ?_
      cases setting with
      | severity label =>
        intro other hother
        exact h other (hother ▸ List.mem_cons_self)
      | category _ | group _ | blocking _ => exact ho
  exact hset none fun _ hlabel => by cases hlabel

theorem stampSeverity_of_proper {o : Overrides} (ho : o.Proper) (f : Failure) :
    ∃ g, o.stampSeverity f = .ok g ∧ g.unlabelled = f.unlabelled := by
  rw [stampSeverity]
  rcases hlabel : o.severity with _ | label
  · exact ⟨f, rfl, rfl⟩
  · obtain ⟨s, rfl⟩ := ho label hlabel
    refine ⟨_, rfl, ?_⟩
    rw [Failure.unlabelled, Failure.unlabelled]
    simp only [Table.without_set Parameter.severity_mem_labels]

theorem unlabelled_stampRest (o : Overrides) (f : Failure) :
    (o.stampRest f).unlabelled = f.unlabelled := by
  have hcategory (category : Option String) :
      (f.withCategory category).unlabelled = f.unlabelled := by
    cases category with
    | none => rfl
    | some text =>
      simp only [Failure.withCategory, Failure.unlabelled,
        Table.without_set Parameter.category_mem_labels]
  rw [stampRest]
  -- group and blocking are taken off again whatever they are
  cases o.category.isSome <;> cases o.group.isSome <;> cases o.blocking.isSome <;>
    first | rfl | exact hcategory _

/-- Proper labels can be put on any failure, and change labels only. -/
theorem stamp_of_proper {o : Overrides} (ho : o.Proper) (f : Failure) :
    ∃ g, o.stamp.Accepts f g ∧ g.unlabelled = f.unlabelled := by
  obtain ⟨g, hg, hsame⟩ := stampSeverity_of_proper ho f
  have hrest := (unlabelled_stampRest o g).trans hsame
  have hid : (o.stampRest g).unlabelled.identifier = f.unlabelled.identifier := by rw [hrest]
  refine ⟨o.stampRest g, ⟨?_, hid⟩, hrest⟩
  rw [stamp, hg]
  rfl

theorem stampAll_of_proper {o : Overrides} (ho : o.Proper) (fs : List Failure) :
    ∃ gs, List.Forall₂ o.stamp.Accepts fs gs ∧
      gs.map Failure.unlabelled = fs.map Failure.unlabelled := by
  induction fs with
  | nil => exact ⟨[], .nil, rfl⟩
  | cons f rest ih =>
    obtain ⟨g, haccepts, hsame⟩ := stamp_of_proper ho f
    obtain ⟨gs, hall, hrest⟩ := ih
    refine ⟨g :: gs, .cons haccepts hall, ?_⟩
    rw [List.map_cons, List.map_cons, hsame, hrest]

end Overrides

/-! ## Rules in which only labels are put on failures -/

/-- The watcher sees no more of the failures than the view of each. -/
def Watcher.SeesOnly {ν β : Type} (watcher : Watcher ν) (view : Failure → β) : Prop :=
  ∀ value id fs gs, fs.map view = gs.map view →
    watcher ⟨value, Answers.ofFailures fs, id⟩ = watcher ⟨value, Answers.ofFailures gs, id⟩

/-- The element and the code of a failure. -/
def Failure.brief (f : Failure) : Identifier × String := (f.identifier, f.code)

/-- A watcher for elements and codes does not look at labels. -/
theorem Watcher.SeesOnly.of_brief {ν : Type} {watcher : Watcher ν}
    (h : watcher.SeesOnly Failure.brief) : watcher.SeesOnly Failure.unlabelled := by
  intro value id fs gs hsame
  have hbrief := congrArg (List.map Failure.brief) hsame
  rw [List.map_map, List.map_map] at hbrief
  exact h value id fs gs hbrief

namespace Rule

variable {ν : Type}

/-- Failures are only enriched by labels, with severities that there are, and no watcher looks at
labels. -/
inductive LabelsOnly : Rule ν → Prop where
  | check (c : Check) : LabelsOnly (check c)
  | create (skipsNull : Bool) (test : Predicate) (factory : FailureFactory) :
    LabelsOnly (create skipsNull test factory)
  | fail (f : Failure) : LabelsOnly (fail f)
  | noop : LabelsOnly noop
  | chain {first second : Rule ν} (hf : first.LabelsOnly) (hs : second.LabelsOnly) :
    LabelsOnly (chain first second)
  | chainAlways {first second : Rule ν} (hf : first.LabelsOnly) (hs : second.LabelsOnly) :
    LabelsOnly (chainAlways first second)
  | chainIf {first second : Rule ν} (hf : first.LabelsOnly) (condition : Predicate)
    (hs : second.LabelsOnly) : LabelsOnly (chainIf first condition second)
  | chainIfClean {first second : Rule ν} (hf : first.LabelsOnly) (hs : second.LabelsOnly)
    (elements : List (Option Identifier)) : LabelsOnly (chainIfClean first second elements)
  | skipIf {rule : Rule ν} (h : rule.LabelsOnly) (condition : Predicate) :
    LabelsOnly (skipIf rule condition)
  | named {rule : Rule ν} (h : rule.LabelsOnly) (name : String) : LabelsOnly (named rule name)
  | peek {rule : Rule ν} (h : rule.LabelsOnly) {watcher : Watcher ν}
    (hw : watcher.SeesOnly Failure.unlabelled) : LabelsOnly (peek rule watcher)
  | stamped {rule : Rule ν} (h : rule.LabelsOnly) {overrides : Overrides}
    (ho : overrides.Proper) : LabelsOnly (stamped rule overrides)

/-- The rule with no labels put on failures anywhere. -/
def unstamped : Rule ν → Rule ν
  | check c => check c
  | create skipsNull test factory => create skipsNull test factory
  | fail f => fail f
  | noop => noop
  | chain first second => chain first.unstamped second.unstamped
  | chainAlways first second => chainAlways first.unstamped second.unstamped
  | chainIf first condition second => chainIf first.unstamped condition second.unstamped
  | chainIfClean first second elements => chainIfClean first.unstamped second.unstamped elements
  | skipIf rule condition => skipIf rule.unstamped condition
  | named rule name => named rule.unstamped name
  | peek rule watcher => peek rule.unstamped watcher
  | withMetadata rule enricher => withMetadata rule.unstamped enricher
  | stamped rule _ => rule.unstamped

/-- Labels that are put on a rule are left out again, whether or not there are any. -/
theorem LabelsOnly.labelled {rule : Rule ν} (h : rule.LabelsOnly) {o : Overrides} (ho : o.Proper) :
    ∃ labelled, Rule.labelled (some rule) o = some labelled ∧ labelled.LabelsOnly ∧
      labelled.unstamped = rule.unstamped := by
  by_cases hnone : o.isNone = true
  · exact ⟨rule, if_pos hnone, h, rfl⟩
  · exact ⟨.stamped rule o, if_neg hnone, .stamped h ho, rfl⟩

/-- So are those that settings give. -/
theorem LabelsOnly.configured {rule : Rule ν} (h : rule.LabelsOnly) {settings : List LabelSetting}
    (hsettings : ∀ label, .severity (some label) ∈ settings → ∃ s, label = .level s) :
    ∃ configured, configure (some rule) settings = .ok configured ∧ configured.LabelsOnly ∧
      configured.unstamped = rule.unstamped :=
  ⟨_, rfl, .stamped h (Overrides.proper_of_settings hsettings), rfl⟩

/-- Tracing is the same before and after labels are left out: putting them on is no part that the
place of a leaf counts. -/
theorem unstamped_traced (rule : Rule ν) (place : List Bool) :
    (rule.traced place).unstamped = rule.unstamped.traced place := by
  induction rule generalizing place with
  | check _ | create _ _ _ | fail _ | noop => rfl
  | chain first second ihf ihs | chainAlways first second ihf ihs
  | chainIf first _ second ihf ihs | chainIfClean first second _ ihf ihs =>
    rw [traced, unstamped, unstamped, traced, ihf, ihs]
  | skipIf rule _ ih | named rule _ ih | peek rule _ ih | withMetadata rule _ ih =>
    rw [traced, unstamped, unstamped, traced, ih]
  | stamped rule _ ih => rw [traced, unstamped, unstamped, ih]

theorem LabelsOnly.announced {rule : Rule ν} (h : rule.LabelsOnly) (note : ν) :
    (announced note rule).LabelsOnly :=
  .chainAlways (.peek .noop fun _ _ _ _ _ => rfl) h

theorem LabelsOnly.traced {rule : Rule ν} (h : rule.LabelsOnly) (place : List Bool) :
    (rule.traced place).LabelsOnly := by
  induction h generalizing place with
  | check c => exact (LabelsOnly.check c).announced _
  | create skipsNull test factory => exact (LabelsOnly.create skipsNull test factory).announced _
  | fail f => exact (LabelsOnly.fail f).announced _
  | noop => exact LabelsOnly.noop.announced _
  | chain _ _ ihf ihs => exact .chain (ihf _) (ihs _)
  | chainAlways _ _ ihf ihs => exact .chainAlways (ihf _) (ihs _)
  | chainIf _ condition _ ihf ihs => exact .chainIf (ihf _) condition (ihs _)
  | chainIfClean _ _ elements ihf ihs => exact .chainIfClean (ihf _) (ihs _) elements
  | skipIf _ condition ih => exact .skipIf (ih _) condition
  | named _ name ih => exact .named (ih _) name
  | peek _ hw ih =>
    refine .peek (ih _) fun value id fs gs hsame => ?_
    rw [hw value id fs gs hsame]
  | stamped _ ho ih => exact .stamped (ih _) ho

end Rule

/-! ## Reports that differ in labels -/

/-- Two reports are the same but for the labels of what they add. -/
structure Report.Alike {ν : Type} (p q : Report ν) : Prop where
  added : p.added.map Failure.unlabelled = q.added.map Failure.unlabelled
  notes : p.notes = q.notes
  fault : p.fault = q.fault

/-- Failures that differ in labels are of the same elements. -/
theorem Failure.identifiers_of_unlabelled {fs gs : List Failure}
    (h : fs.map unlabelled = gs.map unlabelled) :
    fs.map (·.identifier) = gs.map (·.identifier) := by
  have hids := congrArg (List.map (·.identifier)) h
  rwa [List.map_map, List.map_map] at hids

/-- So whether an element has a failure does not depend on labels. -/
theorem Answers.hasErrorFor_unlabelled {fs gs : List Failure}
    (h : fs.map Failure.unlabelled = gs.map Failure.unlabelled) :
    (ofFailures fs).hasErrorFor = (ofFailures gs).hasErrorFor :=
  hasErrorFor_congr (Failure.identifiers_of_unlabelled h)

namespace Report.Alike

variable {ν : Type} {p q : Report ν}

theorem refl (p : Report ν) : p.Alike p := ⟨rfl, rfl, rfl⟩

theorem branch {yes yes' no no' : Report ν} (answer : Except Fault Bool) (hyes : yes.Alike yes')
    (hno : no.Alike no') : (branch answer yes no).Alike (branch answer yes' no') := by
  rcases answer with fault | b
  · exact refl _
  · cases b with
    | false => exact hno
    | true => exact hyes

/-- A report that is made only if an answer is no, when both sides get the same answer. -/
theorem orNothing {a b : Bool} (hab : a = b) (h : p.Alike q) :
    Alike (if a then nothing else p) (if b then nothing else q) := by
  subst hab
  cases a with
  | false => exact h
  | true => exact refl _

/-- What follows sees earlier failures that differ in labels, too. -/
theorem andThen (h : p.Alike q) {fs gs : List Failure}
    (hearlier : fs.map Failure.unlabelled = gs.map Failure.unlabelled)
    {next next' : List Failure → Report ν}
    (hnext : ∀ fs gs, fs.map Failure.unlabelled = gs.map Failure.unlabelled →
      (next fs).Alike (next' gs)) :
    (p.andThen fs next).Alike (q.andThen gs next') := by
  obtain ⟨added, notes, fault⟩ := p
  obtain ⟨added', notes', fault'⟩ := q
  obtain ⟨hadded, rfl, rfl⟩ := h
  cases fault with
  | some fault => exact ⟨hadded, rfl, rfl⟩
  | none =>
    have hall : (fs ++ added).map Failure.unlabelled = (gs ++ added').map Failure.unlabelled := by
      rw [List.map_append, List.map_append, hearlier, hadded]
    obtain ⟨hmore, hnotes, hfault⟩ := hnext _ _ hall
    refine ⟨?_, congrArg (notes ++ ·) hnotes, hfault⟩
    rw [Report.andThen, Report.andThen]
    simp only [List.map_append, hadded, hmore]

/-- Labels that are put on one side make no difference. -/
theorem stamped (h : p.Alike q) {o : Overrides} (ho : o.Proper) : (p.enriched o.stamp).Alike q := by
  rcases hfault : p.fault with _ | fault
  · obtain ⟨gs, haccepts, hsame⟩ := Overrides.stampAll_of_proper ho p.added
    rw [enriched_of_accepts hfault haccepts]
    exact ⟨hsame.trans h.added, h.notes, hfault.symm.trans h.fault⟩
  · rw [enriched_of_fault _ hfault]
    exact h

end Report.Alike

namespace Rule

variable {ν : Type}

/-- A rule reports the same without its labels, but for these, also when earlier failures differ in
theirs. -/
theorem LabelsOnly.report_alike {rule : Rule ν} (h : rule.LabelsOnly) (value : Value)
    (id : Option Identifier) {fs gs : List Failure}
    (hearlier : fs.map Failure.unlabelled = gs.map Failure.unlabelled) :
    (rule.report value id fs).Alike (rule.unstamped.report value id gs) := by
  induction h generalizing fs gs with
  | check _ | create _ _ _ | fail _ | noop => exact .refl _
  | chain _ _ ihf ihs =>
    exact (ihf hearlier).andThen hearlier fun fs gs hsame =>
      .orNothing (congrFun (Answers.hasErrorFor_unlabelled hsame) id) (ihs hsame)
  | chainAlways _ _ ihf ihs =>
    exact (ihf hearlier).andThen hearlier fun fs gs hsame => ihs hsame
  | chainIf _ condition _ ihf ihs =>
    exact (ihf hearlier).andThen hearlier fun fs gs hsame =>
      .orNothing (congrFun (Answers.hasErrorFor_unlabelled hsame) id)
        (.branch (condition value) (ihs hsame) (.refl _))
  | chainIfClean _ _ elements ihf ihs =>
    exact (ihf hearlier).andThen hearlier fun fs gs hsame =>
      .orNothing (congrArg elements.any (Answers.hasErrorFor_unlabelled hsame)) (ihs hsame)
  | skipIf _ condition ih => exact .branch (condition value) (.refl _) (ih hearlier)
  | named _ name ih =>
    obtain ⟨hadded, hnotes, hfault⟩ := ih hearlier
    exact ⟨hadded, hnotes, congrArg (Option.map (Fault.execution name id)) hfault⟩
  | peek _ hw ih =>
    refine (ih hearlier).andThen hearlier fun fs gs hsame => ?_
    rw [hw value id fs gs hsame]
    exact .refl _
  | stamped _ ho ih =>
    rw [report_stamped]
    exact (ih hearlier).stamped ho

end Rule

/-! ## Messages -/

/-- No slot of the template is for a label. -/
def ShowsNoLabel (template : String) : Prop :=
  ∀ name, .slot name ∈ Segment.compile template → name ∉ Parameter.labels

/-- It is enough that no label is among the names that the template asks for. -/
theorem AsksOnly.showsNoLabel {template : String} {names : List String}
    (h : AsksOnly template names) (hnames : ∀ name ∈ names, name ∉ Parameter.labels) :
    ShowsNoLabel template :=
  fun name hslot => hnames name (h name (mem_slotNames.mpr hslot))

theorem Code.showsNoLabel_template (c : Code) : ShowsNoLabel c.template := by
  have hall : ∀ c ∈ all, ∀ name ∈ Parameter.field :: c.parameterNames,
      name ∉ Parameter.labels := by
    decide +kernel
  exact c.asksOnly_template.showsNoLabel (hall c (mem_all c))

theorem showsNoLabel_builtin (code : String) :
    ShowsNoLabel ((builtinTemplates.get? code).getD fallbackTemplate) := by
  rcases hfound : builtinTemplates.get? code with _ | template
  · have hfallback : AsksOnly fallbackTemplate [Parameter.field] :=
      asksOnly_ofList (by decide +kernel)
    exact hfallback.showsNoLabel (by decide)
  · obtain ⟨c, -, hc⟩ := List.mem_map.mp (Table.mem_of_get? hfound)
    obtain rfl := congrArg Prod.snd hc
    exact c.showsNoLabel_template

/-- The built-in templates give failures that only differ in labels the same messages. -/
theorem Desk.builtinMessages_congr {fs gs : List Failure}
    (h : fs.map Failure.unlabelled = gs.map Failure.unlabelled) :
    (builtinMessages fs).answer = (builtinMessages gs).answer := by
  have htext (f : Failure) : textOf builtinTemplates f.code (some f.identifier) f.parameters =
      textOf builtinTemplates f.unlabelled.code (some f.unlabelled.identifier)
        f.unlabelled.parameters := by
    refine Segment.render_congr fun name hslot => ?_
    have hname : name ∉ Parameter.labels := showsNoLabel_builtin f.code name hslot
    rw [messageParameters, messageParameters, Table.get?_overlay, Table.get?_overlay]
    exact congrArg (Option.or · _) (Table.last?_without hname f.parameters).symm
  have hview (fs : List Failure) :
      (fs.map fun f => textOf builtinTemplates f.code (some f.identifier) f.parameters) =
        (fs.map Failure.unlabelled).map fun f =>
          textOf builtinTemplates f.code (some f.identifier) f.parameters := by
    rw [List.map_map]
    exact List.map_congr_left fun f _ => htext f
  rw [builtinMessages_answer, builtinMessages_answer, hview fs, hview gs, h]

namespace Rule

variable {μ ν : Type}

/-- **Labels do not decide**: let labels be put on failures anywhere in a rule, and compare its run
from any result with that of the rule where none are put on. Both come to the same leaves in the
same order, as the traced runs tell; they end in the same fault, or both in none; watchers note the
same; and what is added differs in labels only. The built-in templates give the failures of both
results the same messages. -/
theorem unstamped_run (actions : List (Action μ)) {i : Nat} {r : Result}
    (hr : (Forest.after actions).view i = some r) {rule : Rule ν} (h : rule.LabelsOnly)
    (value : Value) (id : Option Identifier) :
    let o := rule.run value id r
    let u := rule.unstamped.run value id r
    let t := (rule.traced []).run value id r
    let v := (rule.unstamped.traced []).run value id r
    t.notes = v.notes ∧ t.result = o.result ∧ v.result = u.result ∧
      o.fault = u.fault ∧ o.notes = u.notes ∧
      (∃ added added', o.result.failures = r.failures ++ added ∧
        u.result.failures = r.failures ++ added' ∧
        added.map Failure.unlabelled = added'.map Failure.unlabelled) ∧
      ∃ messages, (Desk.builtinMessages o.result.failures).answer = .ok messages ∧
        (Desk.builtinMessages u.result.failures).answer = .ok messages := by
  have hc : r.Consistent := Forest.consistent_of_view_after hr
  intro o u t v
  have ho : o = (rule.report value id r.failures).onto r := rule.run_eq_report value id hc
  have hu : u = (rule.unstamped.report value id r.failures).onto r :=
    rule.unstamped.run_eq_report value id hc
  obtain ⟨hadded, hnotes, hfault⟩ := h.report_alike value id (rfl : r.failures.map _ = _)
  have htraced : t.notes = v.notes := by
    have halike := (h.traced []).report_alike value id (rfl : r.failures.map _ = _)
    rw [unstamped_traced] at halike
    have ht := (rule.traced []).run_eq_report value id hc
    have hv := (rule.unstamped.traced []).run_eq_report value id hc
    exact (congrArg Outcome.notes ht).trans (halike.notes.trans (congrArg Outcome.notes hv).symm)
  have hof : o.result.failures = r.failures ++ (rule.report value id r.failures).added := by
    rw [ho]
    exact Result.failures_addAll ..
  have huf : u.result.failures =
      r.failures ++ (rule.unstamped.report value id r.failures).added := by
    rw [hu]
    exact Result.failures_addAll ..
  refine ⟨htraced, (rule.traced_run [] value id hc).1, (rule.unstamped.traced_run [] value id hc).1,
    ?_, ?_, ⟨_, _, hof, huf, hadded⟩, ?_⟩
  · rw [ho, hu]
    exact hfault
  · rw [ho, hu]
    exact hnotes
  · refine ⟨_, Desk.builtinMessages_answer _, ?_⟩
    rw [← Desk.builtinMessages_answer, hof, huf]
    refine Desk.builtinMessages_congr ?_
    rw [List.map_append, List.map_append, hadded]

/-- Notes the codes of what was found for the element. -/
def sampleNoter : Watcher String := fun s => .ok (s.errors.map (·.code))

/-- Labels within labels, a part that is left out, and a fault under a name. -/
def sampleLabelled : Rule String :=
  .named
    (.stamped
      (.chainAlways
        (.peek
          (.stamped (.check (.flag .positive fun _ => .ok false))
            ⟨some (.level .warning), some "profile", none, none⟩)
          sampleNoter)
        (.chainAlways (.chain (.fail (.sample .path "k")) (.fail (.sample .path "skipped")))
          (.create false (fun _ => .error .overflow) fun _ => .error .overflow)))
      ⟨some (.level .info), none, some "form", some false⟩)
    "form"

theorem sampleNoter_seesOnly : sampleNoter.SeesOnly Failure.brief := by
  intro value id fs gs hsame
  have hcodes (fs : List Failure) : ((Answers.ofFailures fs).errorsFor id).map (·.code) =
      ((fs.map Failure.brief).filter fun e => decide (some e.1 = id)).map (·.2) := by
    rw [List.filter_map, List.map_map]
    rfl
  have hnoted : ((Answers.ofFailures fs).errorsFor id).map (·.code) =
      ((Answers.ofFailures gs).errorsFor id).map (·.code) := by
    rw [hcodes, hcodes, hsame]
  exact congrArg Except.ok hnoted

theorem unstamped_run_sampleLabelled :
    let id : Option Identifier := some ⟨.field, "age"⟩
    let o := sampleLabelled.run (.int 0) id sampleScope
    let u := sampleLabelled.unstamped.run (.int 0) id sampleScope
    (Forest.after sampleActions).view 1 = some sampleScope ∧ sampleLabelled.LabelsOnly ∧
      o.notes = ["number.positive"] ∧ o.notes = u.notes ∧
      o.fault = some (.execution "form" id .overflow) ∧ o.fault = u.fault ∧
      o.result.failures.map (·.category) = [none, none, none, none, some "profile", none] ∧
      u.result.failures.map (·.category) = [none, none, none, none, none, none] ∧
      ∃ messages, (Desk.builtinMessages o.result.failures).answer = .ok messages ∧
        (Desk.builtinMessages u.result.failures).answer = .ok messages := by
  intro id o u
  have hview : (Forest.after sampleActions).view 1 = some sampleScope := rfl
  have hproper (s : Severity) (category group : Option String) (blocking : Option Bool) :
      Overrides.Proper ⟨some (.level s), category, group, blocking⟩ :=
    fun _ hlabel => ⟨s, (Option.some.inj hlabel).symm⟩
  have hlabels : sampleLabelled.LabelsOnly :=
    .named (.stamped (.chainAlways
      (.peek (.stamped (.check _) (hproper _ _ _ _)) sampleNoter_seesOnly.of_brief)
      (.chainAlways (.chain (.fail _) (.fail _)) (.create _ _ _))) (hproper _ _ _ _)) _
  obtain ⟨-, -, -, hfault, hnotes, -, hmessages⟩ :=
    unstamped_run sampleActions hview hlabels (.int 0) id
  exact ⟨hview, hlabels, by decide +kernel, hnotes, by decide +kernel, hfault, by decide +kernel,
    by decide +kernel, hmessages⟩

end Rule

end Verdict
