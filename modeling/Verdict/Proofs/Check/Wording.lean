import Verdict.Proofs.Check.Building
import Verdict.Proofs.Message.Desk
import Verdict.Proofs.Rule.Adding

/-!
# Messages of built-in checks have no gaps

A check, the shape of its failure and the template of its code know each other by names only: the
check names the parameters, and the template asks for names. A name that only one of them has shows
in no fault, but as a gap in a message.

`Failure.Worded` is what rules that out for a failure: there is a built-in template for its code,
and all that this asks for is there and is not nothing. The failures of built checks are worded
(`Check.Built.worded`), labels keep them so (`Worded.stamp`), and their messages show all
(`Worded.showsAll`). `template_filled` says so of every built-in check that was built, with labels
put on what it reports or without.
-/

namespace Verdict

/-! ## Worded failures -/

/-- There is a built-in template for the failure, and the failure has what that asks for. -/
structure Failure.Worded (f : Failure) : Prop where
  made : f.Made
  template : ∃ template, builtinTemplates.get? f.code = some template ∧
    AsksOnly template f.parameters.keys
  given : Parameters.Given f.parameters

namespace Failure.Worded

variable {f g : Failure}

/-- What is given as one more parameter, or in place of one, must not be nothing. -/
theorem withParameter (h : f.Worded) (name : String) {value : Value}
    (hvalue : value.isNull = false) : (f.withParameter name value).Worded := by
  obtain ⟨template, hfound, hasks⟩ := h.template
  refine ⟨h.made.withParameter name value, ⟨template, hfound, hasks.mono fun other hother => ?_⟩,
    h.given.set name hvalue⟩
  exact Table.mem_keys_set.mpr (.inl hother)

theorem relabelled (h : f.Worded) (hcode : g.code = f.code) (hp : g.parameters = f.parameters) :
    g.Worded := by
  refine ⟨.relabelled h.made hp, ?_, ?_⟩
  · rw [hcode, hp]
    exact h.template
  · rw [hp]
    exact h.given

theorem withSeverity (h : f.Worded) {label : Option SeverityLabel}
    (hg : f.withSeverity label = .ok g) : g.Worded := by
  rcases label with _ | s | text
  · cases hg
  · obtain rfl := Except.ok.inj hg
    have hnamed : (f.withParameter Parameter.severity (.text s.name)).Worded :=
      h.withParameter _ rfl
    exact hnamed.relabelled rfl rfl
  · cases hg

theorem withCategory (h : f.Worded) (category : Option String) :
    (f.withCategory category).Worded := by
  cases category with
  | none => exact h.relabelled rfl rfl
  | some text =>
    have hnamed : (f.withParameter Parameter.category (.text text)).Worded :=
      h.withParameter _ rfl
    exact hnamed.relabelled rfl rfl

theorem stampRest (h : f.Worded) (o : Overrides) : (o.stampRest f).Worded := by
  have hcategory : (if o.category.isSome then f.withCategory o.category else f).Worded := by
    cases o.category.isSome with
    | false => exact h
    | true => exact h.withCategory _
  rw [Overrides.stampRest]
  -- group and blocking are no parameters
  cases o.group.isSome <;> cases o.blocking.isSome <;> exact hcategory.relabelled rfl rfl

/-- Labels that are put on a worded failure leave it worded. -/
theorem stamp (h : f.Worded) {o : Overrides} (hg : o.stamp.verdict f = .ok g) : g.Worded := by
  rw [Enricher.verdict, Overrides.stamp] at hg
  rcases hs : o.stampSeverity f with fault | s
  · rw [hs] at hg
    cases hg
  have hsworded : s.Worded := by
    rw [Overrides.stampSeverity] at hs
    by_cases hsome : o.severity.isSome = true
    · rw [if_pos hsome] at hs
      exact h.withSeverity hs
    · rw [if_neg hsome] at hs
      obtain rfl := Except.ok.inj hs
      exact h
  simp only [hs, Except.map] at hg
  by_cases hid : (o.stampRest s).identifier = f.identifier
  · rw [if_pos hid] at hg
    obtain rfl := Except.ok.inj hg
    exact hsworded.stampRest o
  · rw [if_neg hid] at hg
    cases hg

/-- Everything that the template asks for is a parameter and has a value. -/
theorem exists_value (h : f.Worded) : ∃ template, builtinTemplates.get? f.code = some template ∧
    ∀ name ∈ slotNames template,
      ∃ value, f.parameters.get? name = some value ∧ value.isNull = false := by
  obtain ⟨template, hfound, hasks⟩ := h.template
  exact ⟨template, hfound, fun name hname => h.given.exists_value (hasks name hname)⟩

/-- The message for a worded failure at a desk with the built-in templates has no gap. -/
theorem showsAll (h : f.Worded) {template : String}
    (hfound : builtinTemplates.get? f.code = some template) :
    ∃ text, (Desk.builtinMessages [f]).answer = .ok [text] ∧
      Segment.ShowsAll f.parameters (Segment.compile template) text := by
  obtain ⟨template', hfound', hvalues⟩ := h.exists_value
  obtain rfl := Option.some.inj (hfound.symm.trans hfound')
  -- what the desk adds to the parameters of the failure is there already
  have hown : Segment.render (Segment.compile template)
      (messageParameters (some f.identifier) f.parameters) =
        Segment.render (Segment.compile template) f.parameters :=
    Segment.render_congr fun name _ => h.made.get?_messageParameters _ name
  refine ⟨Segment.render (Segment.compile template) f.parameters, ?_, ?_⟩
  · rw [Desk.builtinMessages_answer]
    simp only [List.map_cons, List.map_nil, Desk.textOf, hfound, Option.getD_some, hown]
  · exact Segment.showsAll_render fun name hname => hvalues name (mem_slotNames.mpr hname)

end Failure.Worded

/-! ## Checks with labels -/

namespace Rule

variable {ν : Type}

/-- The rule of a check, perhaps with labels put on what it reports, any number of times. -/
inductive Dressed (c : Check) : Rule ν → Prop where
  | bare : Dressed c (check c)
  | labelled {rule rule' : Rule ν} (h : Dressed c rule) {o : Overrides}
    (hl : Rule.labelled (some rule) o = some rule') : Dressed c rule'
  | configured {rule rule' : Rule ν} (h : Dressed c rule) {settings : List LabelSetting}
    (hc : configure (some rule) settings = .ok rule') : Dressed c rule'

end Rule

theorem Check.Built.worded {c : Check} {obstacle : Option Fault} (h : c.Built obstacle)
    {value : Value} {id : Identifier} {f : Failure} (hf : c.failure value (some id) = .ok f) :
    f.Worded := by
  obtain ⟨g, hg, hreports⟩ | ⟨fault, -, hfault⟩ := h.failure_cases value id
  case inr => cases hfault.symm.trans hf
  obtain rfl := Except.ok.inj (hg.symm.trans hf)
  refine ⟨hreports.made, ⟨c.code.template, ?_, hreports.slots⟩, hreports.given⟩
  rw [hreports.code]
  exact c.code.get?_builtinTemplates

namespace Rule

variable {ν : Type} {c : Check} {obstacle : Option Fault}

/-- A check that reports a failure has refused the value. -/
theorem adds_check (hc : c.Built obstacle) (value : Value) (id : Identifier) (fs : List Failure) :
    ((check c : Rule ν).report value (some id) fs).Adds Failure.Worded := by
  refine .record fun f hf => ?_
  rw [Check.judge_eq] at hf
  rcases hanswer : c.answer value with fault | _ | _
  · rw [hanswer] at hf
    cases hf
  · rw [hanswer] at hf
    obtain ⟨g, hg, hsame⟩ := exists_of_map_eq_ok hf
    obtain rfl := Option.some.inj hsame
    exact hc.worded hg
  · rw [hanswer] at hf
    cases hf

theorem adds_stamped {rule : Rule ν} {value : Value} {id : Option Identifier}
    (h : ∀ fs, (rule.report value id fs).Adds Failure.Worded) (o : Overrides) (fs : List Failure) :
    ((stamped rule o).report value id fs).Adds Failure.Worded := by
  rw [report_stamped]
  exact (h fs).enriched fun f g hf hg => hf.stamp hg

/-- Whatever labels are put on, what a check reports is worded. -/
theorem Dressed.adds_worded {rule : Rule ν} (h : rule.Dressed c) (hc : c.Built obstacle)
    (value : Value) (id : Identifier) (fs : List Failure) :
    (rule.report value (some id) fs).Adds Failure.Worded := by
  induction h generalizing fs with
  | bare => exact adds_check hc value id fs
  | @labelled rule rule' _ o hl ih =>
    rw [report_of_labelled hl]
    exact (ih fs).enriched fun f g hf hg => hf.stamp hg
  | configured _ hconfigured ih =>
    obtain rfl := Except.ok.inj hconfigured
    exact adds_stamped ih _ fs

/-- **No gap in a message of a built-in check**: let a check be built, and perhaps labels put on
what it reports. Whatever a run of it adds, on any value and for any element, has a built-in
template, and everything that the template asks for is a parameter of the failure and not nothing;
so the message with the built-in templates shows the value of every slot. -/
theorem template_filled {μ : Type} (actions : List (Action μ)) {i : Nat} {r : Result}
    (hr : (Forest.after actions).view i = some r) {request : Request}
    (hbuild : request.build = .ok c) {rule : Rule ν} (hrule : rule.Dressed c) (value : Value)
    (id : Identifier) :
    ∃ added, (rule.run value (some id) r).result.failures = r.failures ++ added ∧
      ∀ f ∈ added, ∃ template, builtinTemplates.get? f.code = some template ∧
        (∀ name ∈ slotNames template,
          ∃ given, f.parameters.get? name = some given ∧ given.isNull = false) ∧
        ∃ text, (Desk.builtinMessages [f]).answer = .ok [text] ∧
          Segment.ShowsAll f.parameters (Segment.compile template) text := by
  have hbuilt : c.Built request.obstacle? := Request.built_of_build hbuild
  have hc : r.Consistent := Forest.consistent_of_view_after hr
  obtain ⟨added, hadded, hworded⟩ := exists_added (hrule.adds_worded hbuilt value id) hc
  refine ⟨added, hadded, fun f hf => ?_⟩
  obtain ⟨template, hfound, hvalues⟩ := (hworded f hf).exists_value
  exact ⟨template, hfound, hvalues, (hworded f hf).showsAll hfound⟩

/-- A text is to have three characters at least; the template asks for that under another name than
the check does. -/
def sampleLength : Check :=
  ⟨.minLength, .bound Parameter.minLength (.int 3) true [Parameter.min], true,
    fun v => do Value.related .atLeast (← v.strippedLength?) (.int 3), fun _ => []⟩

/-- Labels within labels. -/
def sampleDressed : Rule Unit :=
  .stamped (.stamped (.check sampleLength) ⟨some (.level .warning), some "profile", none, none⟩)
    ⟨none, none, some "form", some false⟩

theorem template_filled_sampleDressed :
    let r := (sampleDressed.run (.text " ab ") (some ⟨.field, "name"⟩) sampleScope).result
    (Forest.after sampleActions).view 1 = some sampleScope ∧
      (Request.text (.minLength (.int 3))).build = .ok sampleLength ∧
      sampleDressed.Dressed sampleLength ∧
      (Desk.builtinMessages (r.failures.drop 4)).answer =
        .ok ["Field 'name' must be at least 3 characters long"] ∧
      ∃ added, r.failures = sampleScope.failures ++ added ∧
        added.map (·.category) = [some "profile"] ∧
        ∀ f ∈ added, ∃ template, builtinTemplates.get? f.code = some template ∧
          ∃ text, (Desk.builtinMessages [f]).answer = .ok [text] ∧
            Segment.ShowsAll f.parameters (Segment.compile template) text := by
  intro r
  have hview : (Forest.after sampleActions).view 1 = some sampleScope := rfl
  have hlimit : requireLimit Parameter.minLength (.int 3) true = .ok () := by decide +kernel
  have hbuild : (Request.text (.minLength (.int 3))).build = .ok sampleLength := by
    simp only [Request.build, TextCheck.build, TextCheck.lengthCheck, Check.accept, Shape.check,
      Shape.parameters, hlimit]
    rfl
  have hdressed : sampleDressed.Dressed sampleLength :=
    .labelled (.labelled .bare (if_neg (by decide))) (if_neg (by decide))
  obtain ⟨added, hadded, hfilled⟩ :=
    template_filled sampleActions hview hbuild hdressed (.text " ab ") ⟨.field, "name"⟩
  have hcategories : r.failures.map (·.category) =
      sampleScope.failures.map (·.category) ++ [some "profile"] := by decide +kernel
  refine ⟨hview, hbuild, hdressed, by decide +kernel, added, hadded, ?_, fun f hf => ?_⟩
  · rw [hadded, List.map_append] at hcategories
    exact List.append_cancel_left hcategories
  · obtain ⟨template, hfound, -, hmessage⟩ := hfilled f hf
    exact ⟨template, hfound, hmessage⟩

end Rule

end Verdict
