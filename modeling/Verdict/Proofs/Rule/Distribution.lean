import Verdict.Proofs.Rule.Labels

/-!
# Labels on the whole and on its parts

Labels can be put on a composed rule or on each of its parts, and it makes no difference:
`Rule.labelled_in_parts` says that both leave the same result. In one run the second part of a chain
sees what the first has added without labels, in the other with them. So what carries the proof is
that nothing a rule adds depends on more of the earlier failures than their elements
(`Rule.enrichesTo_self`).

`Rule.EnrichesTo` compares a rule that is enriched as a whole with one that is enriched on the way.
Every way of composing rules keeps it. Watchers are shown all of the failures and may end one of the
two runs in a fault, so there are two halves to it: what is added, if neither run ends in a fault,
and that both end in the same, when it is sure that watchers answer.
-/

namespace Verdict

/-! ## Enriching in parts -/

namespace Enricher

/-- Leaves failures as they are. -/
def keep : Enricher := fun f => .ok (some f)

theorem accepts_keep (f : Failure) : keep.Accepts f f := ⟨rfl, rfl⟩

theorem exists_accepts_keep (f : Failure) : ∃ g, keep.Accepts f g := ⟨f, accepts_keep f⟩

/-- An enricher that never refuses comes to the end of any failures. -/
theorem enrichAll_of_total {e : Enricher} (he : ∀ f, ∃ g, e.Accepts f g) (fs : List Failure) :
    (e.enrichAll fs).2 = none := by
  induction fs with
  | nil => rfl
  | cons f rest ih =>
    obtain ⟨g, hg⟩ := he f
    rw [enrichAll, hg.verdict_eq]
    exact ih

/-- Failures that can all be enriched can be enriched in two parts. -/
theorem enrichAll_append (e : Enricher) {fs gs : List Failure}
    (h : (e.enrichAll (fs ++ gs)).2 = none) :
    (e.enrichAll fs).2 = none ∧ (e.enrichAll gs).2 = none ∧
      (e.enrichAll (fs ++ gs)).1 = (e.enrichAll fs).1 ++ (e.enrichAll gs).1 := by
  induction fs with
  | nil => exact ⟨rfl, h, rfl⟩
  | cons f rest ih =>
    rw [List.cons_append, enrichAll] at h ⊢
    rw [enrichAll]
    rcases hv : e.verdict f with fault | g
    · rw [hv] at h
      cases h
    · rw [hv] at h
      obtain ⟨hrest, hgs, hall⟩ := ih h
      exact ⟨hrest, hgs, congrArg (g :: ·) hall⟩

end Enricher

namespace Report

variable {ν : Type}

/-- What the first report adds is enriched to what the second one adds, unless one of them ends in a
fault by then. If it is `sure` besides, both end in the same fault or in none. -/
structure EnrichesTo (e : Enricher) (sure : Prop) (p q : Report ν) : Prop where
  added : (p.enriched e).fault = none → q.fault = none → q.added = (p.enriched e).added
  fault : sure → q.fault = p.fault

theorem enriched_keep (p : Report ν) : p.enriched .keep = p :=
  enriched_of_keeps Enricher.accepts_keep p

theorem fault_eq_none_of_enriched {p : Report ν} {e : Enricher} (h : (p.enriched e).fault = none) :
    p.fault = none := by
  rcases hp : p.fault with _ | fault
  · rfl
  · rw [enriched_of_fault e hp, hp] at h
    cases h

theorem fault_enriched_of_total {p : Report ν} {e : Enricher} (he : ∀ f, ∃ g, e.Accepts f g) :
    (p.enriched e).fault = p.fault := by
  rcases hp : p.fault with _ | fault
  · rw [enriched, hp]
    exact e.enrichAll_of_total he p.added
  · rw [enriched_of_fault e hp, hp]

/-- If all that two reports add can be enriched, it can be enriched report by report. -/
theorem enriched_andThen {p : Report ν} {e : Enricher} {fs : List Failure}
    {next : List Failure → Report ν} (h : ((p.andThen fs next).enriched e).fault = none) :
    p.fault = none ∧ (p.enriched e).fault = none ∧
      ((next (fs ++ p.added)).enriched e).fault = none ∧
      ((p.andThen fs next).enriched e).added =
        (p.enriched e).added ++ ((next (fs ++ p.added)).enriched e).added := by
  have hboth : (p.andThen fs next).fault = none := fault_eq_none_of_enriched h
  rcases hp : p.fault with _ | fault
  · rw [andThen_of_none hp] at h hboth ⊢
    rw [enriched, hboth] at h ⊢
    obtain ⟨hfirst, hsecond, hadded⟩ := e.enrichAll_append h
    rw [enriched, hp, enriched, hboth]
    exact ⟨rfl, hfirst, hsecond, hadded⟩
  · rw [andThen_of_fault hp] at hboth
    cases hp.symm.trans hboth

namespace EnrichesTo

variable {e : Enricher} {sure : Prop} {p q : Report ν}

theorem refl (sure : Prop) (p : Report ν) : EnrichesTo .keep sure p p := by
  refine ⟨?_, fun _ => rfl⟩
  rw [enriched_keep]
  exact fun _ _ => rfl

/-- Nothing that was added, nothing to enrich. -/
theorem of_added_nil (hp : p.added = []) (hq : q.added = []) (hfault : sure → q.fault = p.fault) :
    EnrichesTo e sure p q := by
  refine ⟨fun h _ => ?_, hfault⟩
  rw [Report.enriched, fault_eq_none_of_enriched h, hp, hq]
  rfl

theorem nothing : EnrichesTo e sure (Report.nothing : Report ν) .nothing :=
  of_added_nil rfl rfl fun _ => rfl

theorem branch {yes yes' no no' : Report ν} (answer : Except Fault Bool)
    (hyes : EnrichesTo e sure yes yes') (hno : EnrichesTo e sure no no') :
    EnrichesTo e sure (Report.branch answer yes no) (Report.branch answer yes' no') := by
  rcases answer with fault | b
  · exact of_added_nil rfl rfl fun _ => rfl
  · cases b with
    | false => exact hno
    | true => exact hyes

theorem orNothing {a b : Bool} (hab : a = b) (h : EnrichesTo e sure p q) :
    EnrichesTo e sure (if a then .nothing else p) (if b then .nothing else q) := by
  subst hab
  cases a with
  | false => exact h
  | true => exact nothing

/-- What follows sees failures of the same elements on both sides. -/
theorem andThen (he : sure → ∀ f, ∃ g, e.Accepts f g) (h : EnrichesTo e sure p q)
    {fs gs : List Failure} (hearlier : fs.map (·.identifier) = gs.map (·.identifier))
    {next next' : List Failure → Report ν}
    (hnext : ∀ fs gs, fs.map (·.identifier) = gs.map (·.identifier) →
      EnrichesTo e sure (next fs) (next' gs)) :
    EnrichesTo e sure (p.andThen fs next) (q.andThen gs next') := by
  have hstep (hp : (p.enriched e).fault = none) (hq : q.fault = none) :
      EnrichesTo e sure (next (fs ++ p.added)) (next' (gs ++ q.added)) := by
    refine hnext _ _ ?_
    rw [List.map_append, List.map_append, hearlier, h.added hp hq, identifiers_enriched]
  rcases hq : q.fault with _ | fault
  · refine ⟨fun hfirst hsecond => ?_, fun hsure => ?_⟩
    · obtain ⟨-, hp, hrest, hadded⟩ := enriched_andThen hfirst
      rw [andThen_of_none hq] at hsecond ⊢
      rw [hadded, ← h.added hp hq, (hstep hp hq).added hrest hsecond]
    · have hp : p.fault = none := (h.fault hsure).symm.trans hq
      have hpe : (p.enriched e).fault = none := (fault_enriched_of_total (he hsure)).trans hp
      rw [andThen_of_none hp, andThen_of_none hq]
      exact (hstep hpe hq).fault hsure
  · rw [andThen_of_fault hq]
    refine ⟨fun _ hsecond => ?_, fun hsure => ?_⟩
    · cases hq.symm.trans hsecond
    · have hp : p.fault = some fault := (h.fault hsure).symm.trans hq
      rw [andThen_of_fault hp]
      exact h.fault hsure

/-- What is the same may be enriched on both sides. -/
theorem enriched (h : EnrichesTo .keep sure p q) (e : Enricher) :
    EnrichesTo .keep sure (p.enriched e) (q.enriched e) := by
  have hsame (hp : p.fault = none) (hq : q.fault = none) : q.added = p.added := by
    have hadded := h.added ((congrArg Report.fault p.enriched_keep).trans hp) hq
    rwa [enriched_keep] at hadded
  refine ⟨fun hp hq => ?_, fun hsure => ?_⟩
  · rw [enriched_keep] at hp ⊢
    have hp' := fault_eq_none_of_enriched hp
    have hq' := fault_eq_none_of_enriched hq
    rw [Report.enriched, Report.enriched, hp', hq', hsame hp' hq']
  · rcases hp : p.fault with _ | fault
    · have hq : q.fault = none := (h.fault hsure).trans hp
      rw [Report.enriched, Report.enriched, hp, hq, hsame hp hq]
    · have hq : q.fault = some fault := (h.fault hsure).trans hp
      rw [enriched_of_fault e hp, enriched_of_fault e hq, hp, hq]

/-- Or on one side, if the other is then what the first is to be enriched to. -/
theorem enrich (h : EnrichesTo .keep sure p q) (he : sure → ∀ f, ∃ g, e.Accepts f g) :
    EnrichesTo e sure p (q.enriched e) := by
  have hboth := h.enriched e
  refine ⟨fun hp hq => ?_, fun hsure => ?_⟩
  · rw [hboth.added (by rwa [enriched_keep]) hq, enriched_keep]
  · rw [fault_enriched_of_total (he hsure)]
    exact h.fault hsure

end EnrichesTo

end Report

/-! ## Rules -/

theorem Overrides.Proper.exists_accepts {o : Overrides} (ho : o.Proper) (f : Failure) :
    ∃ g, o.stamp.Accepts f g := by
  obtain ⟨g, haccepts, -⟩ := stamp_of_proper ho f
  exact ⟨g, haccepts⟩

namespace Rule

variable {μ ν : Type}

/-- One rule reports what another one reports when its failures are then enriched, also if the
failures before the runs have nothing but their elements in common. -/
def EnrichesTo (e : Enricher) (sure : Prop) (value : Value) (id : Option Identifier)
    (rule rule' : Rule ν) : Prop :=
  ∀ fs gs : List Failure, fs.map (·.identifier) = gs.map (·.identifier) →
    Report.EnrichesTo e sure (rule.report value id fs) (rule'.report value id gs)

namespace EnrichesTo

variable {e : Enricher} {sure : Prop} {value : Value} {id : Option Identifier}
  {rule rule' first first' second second' : Rule ν}

theorem chainAlways (he : sure → ∀ f, ∃ g, e.Accepts f g)
    (hf : EnrichesTo e sure value id first first')
    (hs : EnrichesTo e sure value id second second') :
    EnrichesTo e sure value id (.chainAlways first second) (.chainAlways first' second') := by
  intro fs gs hearlier
  exact (hf fs gs hearlier).andThen he hearlier hs

theorem chain (he : sure → ∀ f, ∃ g, e.Accepts f g)
    (hf : EnrichesTo e sure value id first first')
    (hs : EnrichesTo e sure value id second second') :
    EnrichesTo e sure value id (.chain first second) (.chain first' second') := by
  intro fs gs hearlier
  refine (hf fs gs hearlier).andThen he hearlier fun fs gs hsame => ?_
  exact .orNothing (congrFun (Answers.hasErrorFor_congr hsame) id) (hs fs gs hsame)

theorem chainIf (he : sure → ∀ f, ∃ g, e.Accepts f g)
    (hf : EnrichesTo e sure value id first first') (condition : Predicate)
    (hs : EnrichesTo e sure value id second second') :
    EnrichesTo e sure value id (.chainIf first condition second)
      (.chainIf first' condition second') := by
  intro fs gs hearlier
  refine (hf fs gs hearlier).andThen he hearlier fun fs gs hsame => ?_
  exact .orNothing (congrFun (Answers.hasErrorFor_congr hsame) id)
    (.branch (condition value) (hs fs gs hsame) .nothing)

theorem chainIfClean (he : sure → ∀ f, ∃ g, e.Accepts f g)
    (hf : EnrichesTo e sure value id first first')
    (hs : EnrichesTo e sure value id second second') (elements : List (Option Identifier)) :
    EnrichesTo e sure value id (.chainIfClean first second elements)
      (.chainIfClean first' second' elements) := by
  intro fs gs hearlier
  refine (hf fs gs hearlier).andThen he hearlier fun fs gs hsame => ?_
  exact .orNothing (congrArg elements.any (Answers.hasErrorFor_congr hsame)) (hs fs gs hsame)

theorem skipIf (h : EnrichesTo e sure value id rule rule') (condition : Predicate) :
    EnrichesTo e sure value id (.skipIf rule condition) (.skipIf rule' condition) := by
  intro fs gs hearlier
  exact .branch (condition value) .nothing (h fs gs hearlier)

end EnrichesTo

/-- Watchers always come to notes, whatever they are shown. -/
def WatchersAnswer : Rule ν → Prop
  | check _ | create _ _ _ | fail _ | noop => True
  | chain first second | chainAlways first second | chainIf first _ second
  | chainIfClean first second _ => first.WatchersAnswer ∧ second.WatchersAnswer
  | skipIf rule _ | named rule _ | withMetadata rule _ | stamped rule _ => rule.WatchersAnswer
  | peek rule watcher => rule.WatchersAnswer ∧ ∀ s, ∃ notes, watcher s = .ok notes

/-- What a rule adds does not depend on the earlier failures, but for their elements. Watchers see
more of them, so they may end one of the runs, unless they are sure to answer. -/
theorem enrichesTo_self (rule : Rule ν) {sure : Prop} (hsure : sure → rule.WatchersAnswer)
    (value : Value) (id : Option Identifier) : EnrichesTo .keep sure value id rule rule := by
  have hkeep : sure → ∀ f, ∃ g, Enricher.keep.Accepts f g := fun _ => Enricher.exists_accepts_keep
  induction rule with
  | check _ | create _ _ _ | fail _ | noop => exact fun _ _ _ => .refl _ _
  | chain first second ihf ihs =>
    exact .chain hkeep (ihf fun h => (hsure h).1) (ihs fun h => (hsure h).2)
  | chainAlways first second ihf ihs =>
    exact .chainAlways hkeep (ihf fun h => (hsure h).1) (ihs fun h => (hsure h).2)
  | chainIf first condition second ihf ihs =>
    exact .chainIf hkeep (ihf fun h => (hsure h).1) condition (ihs fun h => (hsure h).2)
  | chainIfClean first second elements ihf ihs =>
    exact .chainIfClean hkeep (ihf fun h => (hsure h).1) (ihs fun h => (hsure h).2) elements
  | skipIf rule condition ih => exact (ih hsure).skipIf condition
  | named rule name ih =>
    intro fs gs hearlier
    obtain ⟨hadded, hfault⟩ := ih hsure fs gs hearlier
    rw [Report.enriched_keep] at hadded
    refine ⟨fun hp hq => ?_, fun h => congrArg (Option.map (Fault.execution name id)) (hfault h)⟩
    rw [Report.enriched_keep] at hp ⊢
    exact hadded (Option.map_eq_none_iff.mp hp) (Option.map_eq_none_iff.mp hq)
  | peek rule watcher ih =>
    intro fs gs hearlier
    refine (ih (fun h => (hsure h).1) fs gs hearlier).andThen hkeep hearlier fun fs gs _ => ?_
    -- the watcher adds nothing on either side
    refine .of_added_nil ?_ ?_ fun h => ?_
    · rcases watcher ⟨value, Answers.ofFailures fs, id⟩ with fault | notes <;> rfl
    · rcases watcher ⟨value, Answers.ofFailures gs, id⟩ with fault | notes <;> rfl
    · obtain ⟨notes, hnotes⟩ := (hsure h).2 ⟨value, Answers.ofFailures fs, id⟩
      obtain ⟨notes', hnotes'⟩ := (hsure h).2 ⟨value, Answers.ofFailures gs, id⟩
      rw [hnotes, hnotes']
  | withMetadata rule enricher ih =>
    intro fs gs hearlier
    exact (ih hsure fs gs hearlier).enriched enricher
  | stamped rule overrides ih =>
    intro fs gs hearlier
    rw [report_stamped, report_stamped]
    exact (ih hsure fs gs hearlier).enriched overrides.stamp

/-- The second rule is the first with labels put on its parts, instead of on the whole. -/
inductive LabelledInParts (o : Overrides) : Rule ν → Rule ν → Prop where
  /-- Any rule may be left in one part. -/
  | part {rule labelled : Rule ν} (h : Rule.labelled (some rule) o = some labelled) :
    LabelledInParts o rule labelled
  | chain {first first' second second' : Rule ν} (hf : LabelledInParts o first first')
    (hs : LabelledInParts o second second') :
    LabelledInParts o (chain first second) (chain first' second')
  | chainAlways {first first' second second' : Rule ν} (hf : LabelledInParts o first first')
    (hs : LabelledInParts o second second') :
    LabelledInParts o (chainAlways first second) (chainAlways first' second')
  | chainIf {first first' second second' : Rule ν} (hf : LabelledInParts o first first')
    (condition : Predicate) (hs : LabelledInParts o second second') :
    LabelledInParts o (chainIf first condition second) (chainIf first' condition second')
  | chainIfClean {first first' second second' : Rule ν} (hf : LabelledInParts o first first')
    (hs : LabelledInParts o second second') (elements : List (Option Identifier)) :
    LabelledInParts o (chainIfClean first second elements) (chainIfClean first' second' elements)
  | skipIf {rule rule' : Rule ν} (h : LabelledInParts o rule rule') (condition : Predicate) :
    LabelledInParts o (skipIf rule condition) (skipIf rule' condition)

/-- Parts with labels report what the rule reports when its failures are then labelled. -/
theorem LabelledInParts.enrichesTo {o : Overrides} {rule parts : Rule ν}
    (h : LabelledInParts o rule parts) {sure : Prop} (ho : sure → o.Proper)
    (hsure : sure → rule.WatchersAnswer) (value : Value) (id : Option Identifier) :
    EnrichesTo o.stamp sure value id rule parts := by
  have htotal : sure → ∀ f, ∃ g, o.stamp.Accepts f g := fun h => (ho h).exists_accepts
  induction h with
  | @part rule _ hlabelled =>
    intro fs gs hearlier
    rw [report_of_labelled hlabelled]
    exact (rule.enrichesTo_self hsure value id fs gs hearlier).enrich htotal
  | chain _ _ ihf ihs =>
    exact .chain htotal (ihf fun h => (hsure h).1) (ihs fun h => (hsure h).2)
  | chainAlways _ _ ihf ihs =>
    exact .chainAlways htotal (ihf fun h => (hsure h).1) (ihs fun h => (hsure h).2)
  | chainIf _ condition _ ihf ihs =>
    exact .chainIf htotal (ihf fun h => (hsure h).1) condition (ihs fun h => (hsure h).2)
  | chainIfClean _ _ elements ihf ihs =>
    exact .chainIfClean htotal (ihf fun h => (hsure h).1) (ihs fun h => (hsure h).2) elements
  | skipIf _ condition ih => exact (ih hsure).skipIf condition

/-- **Labels may be put on the parts**: let labels be put on a rule as a whole, and on the parts
that it is made of, at any depth. From any result, two runs that do not end in a fault leave the
same result. If the severity is one and watchers answer, both end in a fault exactly if the rule
without labels does, and in the same. -/
theorem labelled_in_parts (actions : List (Action μ)) {i : Nat} {r : Result}
    (hr : (Forest.after actions).view i = some r) {o : Overrides} {rule whole parts : Rule ν}
    (hwhole : labelled (some rule) o = some whole) (hparts : LabelledInParts o rule parts)
    (value : Value) (id : Option Identifier) :
    let w := whole.run value id r
    let p := parts.run value id r
    (w.fault = none → p.fault = none → p.result = w.result) ∧
      (o.Proper → rule.WatchersAnswer →
        w.fault = (rule.run value id r).fault ∧ p.fault = (rule.run value id r).fault) := by
  have hc : r.Consistent := Forest.consistent_of_view_after hr
  intro w p
  have hw : w = ((rule.report value id r.failures).enriched o.stamp).onto r := by
    rw [← report_of_labelled hwhole]
    exact whole.run_eq_report value id hc
  have hp : p = (parts.report value id r.failures).onto r := parts.run_eq_report value id hc
  have hreport : Rule.EnrichesTo o.stamp (o.Proper ∧ rule.WatchersAnswer) value id rule parts :=
    hparts.enrichesTo And.left And.right value id
  obtain ⟨hadded, hfault⟩ := hreport r.failures r.failures rfl
  refine ⟨fun hwf hpf => ?_, fun ho hanswer => ?_⟩
  · rw [hw] at hwf ⊢
    rw [hp] at hpf ⊢
    rw [Report.onto, Report.onto, hadded hwf hpf]
  · rw [hw, hp, rule.run_eq_report value id hc]
    exact ⟨Report.fault_enriched_of_total ho.exists_accepts, hfault ⟨ho, hanswer⟩⟩

/-- A composed rule whose parts are wrapped. -/
def sampleComposed (wrap : Rule String → Rule String) : Rule String :=
  .chainAlways
    (.chain (wrap (.peek (.check (.flag .positive fun _ => .ok false)) sampleNoter))
      (wrap (.fail (.sample .path "skipped"))))
    (.skipIf
      (.chainIfClean (wrap (.fail (.sample .path "g")))
        (wrap (.withMetadata (.fail (.sample .field "h")) sampleEnricher)) [some ⟨.field, "name"⟩])
      fun _ => .ok false)

/-- Of four parts one does not get its turn, with labels or without. -/
theorem labelled_in_parts_sampleComposed :
    let id : Option Identifier := some ⟨.field, "age"⟩
    let o : Overrides := ⟨some (.level .warning), some "profile", none, none⟩
    let w := (stamped (sampleComposed fun rule => rule) o).run (.int 0) id sampleScope
    let p := (sampleComposed fun rule => stamped rule o).run (.int 0) id sampleScope
    (Forest.after sampleActions).view 1 = some sampleScope ∧ w.fault = none ∧ p.fault = none ∧
      p.result = w.result ∧
      (p.result.failures.drop 4).map (fun f => (f.code, f.category)) =
        [("number.positive", some "profile"), ("g", some "profile"), ("h", some "profile")] := by
  intro id o w p
  have hview : (Forest.after sampleActions).view 1 = some sampleScope := rfl
  have hwhole : labelled (some (sampleComposed fun rule => rule)) o =
      some (stamped (sampleComposed fun rule => rule) o) := rfl
  have hparts : LabelledInParts o (sampleComposed fun rule => rule)
      (sampleComposed fun rule => stamped rule o) :=
    .chainAlways (.chain (.part rfl) (.part rfl))
      (.skipIf (.chainIfClean (.part rfl) (.part rfl) _) _)
  have hproper : o.Proper := fun _ hlabel => ⟨.warning, (Option.some.inj hlabel).symm⟩
  have hanswer : (sampleComposed fun rule => rule).WatchersAnswer :=
    ⟨⟨⟨trivial, fun _ => ⟨_, rfl⟩⟩, trivial⟩, trivial, trivial⟩
  have hplain : ((sampleComposed fun rule => rule).run (.int 0) id sampleScope).fault = none := by
    decide +kernel
  obtain ⟨hsame, hfault⟩ := labelled_in_parts sampleActions hview hwhole hparts (.int 0) id
  obtain ⟨hw, hp⟩ := hfault hproper hanswer
  exact ⟨hview, hw.trans hplain, hp.trans hplain, hsame (hw.trans hplain) (hp.trans hplain),
    by decide +kernel⟩

end Rule

end Verdict
