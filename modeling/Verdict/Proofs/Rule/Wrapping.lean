import Verdict.Proofs.Rule.Labels

/-!
# Wrappers around wrappers

A rule that is wrapped twice reports what it would report with one wrapper that does the work of
both. `Rule.wrappers_compose` says this of every kind of wrapper. One enricher around another is the
second `Enricher.after` the first; labels around labels are those of the outer wrapper `above`
those of the inner one; and settings of a builder are the last of each kind (`Overrides.lastOf`).

For labels the matter is in the parameters that repeat them: the outer wrapper writes its own after
the inner one has written both. `Overrides.put` gives a labelled failure as a whole, and `put_put`
comes down to two rounds of writes into a table.
-/

namespace Verdict

namespace Enricher

/-- One enricher after another. If the first gives nothing or a fault, there it ends. -/
def after (g f : Enricher) : Enricher := fun x =>
  match f x with
  | .error fault => .error fault
  | .ok none => .ok none
  | .ok (some y) => g y

variable {f g : Enricher}

theorem Accepts.after {x y z : Failure} (hf : f.Accepts x y) (hg : g.Accepts y z) :
    (g.after f).Accepts x z := by
  refine ⟨?_, hg.2.trans hf.2⟩
  rw [Enricher.after, hf.1]
  exact hg.1

/-- Where both can be followed on each failure, they can be followed one after the other. -/
theorem exists_forall₂_accepts {xs : List Failure}
    (h : ∀ x ∈ xs, ∃ y z, f.Accepts x y ∧ g.Accepts y z) :
    ∃ ys zs, List.Forall₂ f.Accepts xs ys ∧ List.Forall₂ g.Accepts ys zs ∧
      List.Forall₂ (g.after f).Accepts xs zs := by
  induction xs with
  | nil => exact ⟨[], [], .nil, .nil, .nil⟩
  | cons x rest ih =>
    obtain ⟨⟨y, z, hy, hz⟩, hrest⟩ := List.forall_mem_cons.mp h
    obtain ⟨ys, zs, hys, hzs, hall⟩ := ih hrest
    exact ⟨y :: ys, z :: zs, .cons hy hys, .cons hz hzs, .cons (hy.after hz) hall⟩

end Enricher

theorem Report.enriched_enriched {ν : Type} {p : Report ν} {f g : Enricher}
    (h : ∀ x ∈ p.added, ∃ y z, f.Accepts x y ∧ g.Accepts y z) :
    (p.enriched f).enriched g = p.enriched (g.after f) := by
  rcases hfault : p.fault with _ | fault
  · obtain ⟨ys, zs, hys, hzs, hall⟩ := Enricher.exists_forall₂_accepts h
    rw [enriched_of_accepts hfault hys, enriched_of_accepts hfault hall,
      enriched_of_accepts rfl hzs]
  · rw [enriched_of_fault f hfault, enriched_of_fault g hfault, enriched_of_fault _ hfault]

/-! ## Labelled failures -/

/-- A severity as it is repeated among the parameters. -/
def SeverityLabel.value? : SeverityLabel → Option Value
  | .level s => some (.text s.name)
  | .other _ => none

/-- Two failures are the same, but for the order of their parameters. -/
structure Failure.SameButOrder (f g : Failure) : Prop where
  parameters : f.parameters.Perm g.parameters
  rest : { f with parameters := g.parameters } = g

namespace Overrides

/-- The failure with the labels that there are to put. -/
def put (o : Overrides) (f : Failure) : Failure :=
  { f with
    parameters :=
      (f.parameters.write Parameter.severity (o.severity.bind SeverityLabel.value?)).write
        Parameter.category (o.category.map .text)
    severity := o.severity.or f.severity
    category := o.category.or f.category
    group := o.group.or f.group
    blocking := o.blocking.or f.blocking }

/-- Proper labels are put on every failure. -/
theorem accepts_put {o : Overrides} (ho : o.Proper) (f : Failure) :
    o.stamp.Accepts f (o.put f) := by
  obtain ⟨severity, category, group, blocking⟩ := o
  have hrest (f : Failure) : stampRest ⟨severity, category, group, blocking⟩ f =
      put ⟨.none, category, group, blocking⟩ f := by
    cases category <;> cases group <;> cases blocking <;> rfl
  refine ⟨?_, rfl⟩
  rcases severity with _ | label
  · exact congrArg (fun g => Except.ok (some g)) (hrest f)
  · obtain ⟨s, rfl⟩ := ho label rfl
    exact congrArg (fun g => Except.ok (some g)) (hrest _)

/-- Labels above others: where there is none, the other shows. -/
def above (outer inner : Overrides) : Overrides where
  severity := outer.severity.or inner.severity
  category := outer.category.or inner.category
  group := outer.group.or inner.group
  blocking := outer.blocking.or inner.blocking

variable {outer inner : Overrides}

theorem Proper.above (ho : outer.Proper) (hi : inner.Proper) : (outer.above inner).Proper := by
  intro label hlabel
  rcases Option.or_eq_some_iff.mp hlabel with h | ⟨-, h⟩
  · exact ho label h
  · exact hi label h

/-- Putting labels on a labelled failure is putting them over its labels. -/
theorem put_put (ho : outer.Proper) (f : Failure) :
    (outer.put (inner.put f)).SameButOrder ((outer.above inner).put f) := by
  have hseverity : (outer.severity.or inner.severity).bind SeverityLabel.value? =
      (outer.severity.bind SeverityLabel.value?).or (inner.severity.bind SeverityLabel.value?) := by
    rcases hlabel : outer.severity with _ | label
    · rfl
    · obtain ⟨s, rfl⟩ := ho label hlabel
      rfl
  have hcategory : (outer.category.or inner.category).map Value.text =
      (outer.category.map Value.text).or (inner.category.map Value.text) := by
    cases outer.category <;> rfl
  have hnames : Parameter.severity ≠ Parameter.category := by decide
  refine ⟨?_, ?_⟩
  · rw [put, put, put, above]
    simp only [hseverity, hcategory]
    exact Table.write_rounds_perm hnames _ _ _ _ f.parameters
  · simp only [put, above, Option.or_assoc]

end Overrides

/-! ## Settings -/

namespace LabelSetting

/-- What is set as the severity, if that is set. -/
def severity? : LabelSetting → Option (Option SeverityLabel)
  | .severity label => some label
  | _ => none

/-- What is set as the category, if that is set. -/
def category? : LabelSetting → Option (Option String)
  | .category text => some text
  | _ => none

/-- What is set as the group, if that is set. -/
def group? : LabelSetting → Option (Option String)
  | .group text => some text
  | _ => none

/-- What is set as blocking or not, if that is set. -/
def blocking? : LabelSetting → Option (Option Bool)
  | .blocking value => some value
  | _ => none

end LabelSetting

namespace Overrides

/-- The last label of each kind that was set. -/
def lastOf (settings : List LabelSetting) : Overrides where
  severity := (settings.filterMap LabelSetting.severity?).getLast?.join
  category := (settings.filterMap LabelSetting.category?).getLast?.join
  group := (settings.filterMap LabelSetting.group?).getLast?.join
  blocking := (settings.filterMap LabelSetting.blocking?).getLast?.join

theorem foldl_set (settings : List LabelSetting) : settings.foldl set none = lastOf settings := by
  induction settings using List.reverseRecOn with
  | nil => rfl
  | append_singleton settings setting ih =>
    rw [List.foldl_concat, ih]
    -- the new setting is last of its kind, and changes nothing for the other kinds
    cases setting <;>
      simp [lastOf, set, List.filterMap_append, LabelSetting.severity?, LabelSetting.category?,
        LabelSetting.group?, LabelSetting.blocking?]

end Overrides

/-! ## Wrapped rules -/

/-- Two reports are the same, but for the order of the parameters of what they add. -/
structure Report.SameButOrder {ν : Type} (p q : Report ν) : Prop where
  added : List.Forall₂ Failure.SameButOrder p.added q.added
  notes : p.notes = q.notes
  fault : p.fault = q.fault

namespace Report

variable {ν : Type}

theorem enriched_put {p : Report ν} {o : Overrides} (ho : o.Proper) (h : p.fault = none) :
    p.enriched o.stamp = ⟨p.added.map o.put, p.notes, none⟩ :=
  enriched_of_accepts h
    (List.forall₂_map_right_iff.mpr (List.forall₂_same.mpr fun f _ => o.accepts_put ho f))

theorem stamp_stamp (p : Report ν) {inner outer : Overrides} (hi : inner.Proper)
    (ho : outer.Proper) :
    ((p.enriched inner.stamp).enriched outer.stamp).SameButOrder
      (p.enriched (outer.above inner).stamp) := by
  rcases hfault : p.fault with _ | fault
  · rw [enriched_put hi hfault, enriched_put ho rfl, enriched_put (ho.above hi) hfault,
      List.map_map]
    refine ⟨?_, rfl, rfl⟩
    rw [List.forall₂_map_left_iff, List.forall₂_map_right_iff, List.forall₂_same]
    exact fun f _ => Overrides.put_put ho f
  · rw [enriched_of_fault _ hfault, enriched_of_fault _ hfault, enriched_of_fault _ hfault]
    exact ⟨List.forall₂_same.mpr fun f _ => ⟨.refl _, rfl⟩, rfl, rfl⟩

end Report

namespace Rule

variable {μ ν : Type}

/-- **Wrappers compose**: let a rule be run from any result.

Where two enrichers can be followed on what the rule adds, one around the other is the second after
the first, to the last detail of the run. Labels put on around labels are those of the outer
wrapper, and of the inner one where the outer has none; only parameters may come to stand in another
order. And a builder gives the rule with the last label of each kind that was set. -/
theorem wrappers_compose (actions : List (Action μ)) {i : Nat} {r : Result}
    (hr : (Forest.after actions).view i = some r) (rule : Rule ν) (value : Value)
    (id : Option Identifier) :
    (∀ f g : Enricher,
      (∀ x ∈ (rule.run value id r).result.failures.drop r.size,
        ∃ y z, f.Accepts x y ∧ g.Accepts y z) →
      (withMetadata (withMetadata rule f) g).run value id r =
        (withMetadata rule (g.after f)).run value id r) ∧
    (∀ inner outer : Overrides, inner.Proper → outer.Proper →
      ∃ once twice both, labelled (some rule) inner = some once ∧
        labelled (some once) outer = some twice ∧
        labelled (some rule) (outer.above inner) = some both ∧
        let t := twice.run value id r
        let b := both.run value id r
        t.fault = b.fault ∧ t.notes = b.notes ∧
          ∃ added added', t.result = r.addAll added ∧ b.result = r.addAll added' ∧
            List.Forall₂ Failure.SameButOrder added added') ∧
    ∀ settings, ∃ built whole, configure (some rule) settings = .ok built ∧
      labelled (some rule) (Overrides.lastOf settings) = some whole ∧
      built.run value id r = whole.run value id r := by
  have hc : r.Consistent := Forest.consistent_of_view_after hr
  have hrun (rule : Rule ν) := rule.run_eq_report value id hc
  refine ⟨?_, ?_, ?_⟩
  · intro f g h
    have hdrop : (rule.run value id r).result.failures.drop r.size =
        (rule.report value id r.failures).added := by
      rw [rule.run_result value id hc, Result.failures_addAll, Result.size_eq_length,
        List.drop_left]
    rw [hdrop] at h
    rw [hrun, hrun, report, report, report, Report.enriched_enriched h]
  · intro inner outer hi ho
    obtain ⟨once, honce⟩ := exists_labelled rule inner
    obtain ⟨twice, htwice⟩ := exists_labelled once outer
    obtain ⟨both, hboth⟩ := exists_labelled rule (outer.above inner)
    refine ⟨once, twice, both, honce, htwice, hboth, ?_⟩
    obtain ⟨hadded, hnotes, hfault⟩ := (rule.report value id r.failures).stamp_stamp hi ho
    rw [← report_of_labelled honce, ← report_of_labelled htwice] at hadded hnotes hfault
    rw [← report_of_labelled hboth] at hadded hnotes hfault
    rw [hrun, hrun]
    exact ⟨hfault, hnotes, _, _, rfl, rfl, hadded⟩
  · intro settings
    obtain ⟨whole, hwhole⟩ := exists_labelled rule (Overrides.lastOf settings)
    refine ⟨_, whole, rfl, hwhole, ?_⟩
    rw [hrun, hrun, report_of_labelled hwhole, report_stamped, Overrides.foldl_set]

/-- Puts a source on failures that have a group. -/
def sampleSource : Enricher := fun f => .ok (some (f.withSource f.group))

/-- Two of the settings are for one label, and the second takes it away again. -/
def sampleSettings : List LabelSetting :=
  [.severity (some (.level .info)), .category (some "profile"), .severity none,
    .blocking (some false)]

/-- A category is put on before a severity: what is repeated among the parameters comes in the
other order than if both were put on at once. -/
theorem wrappers_compose_sampleScope :
    let found : Rule Unit := .chainAlways (.fail (.sample .path "g")) (.fail (.sample .field "h"))
    let o := (withMetadata (withMetadata found sampleEnricher) sampleSource).run .null none
      sampleScope
    let inner : Overrides := ⟨none, some "profile", none, none⟩
    let outer : Overrides := ⟨some (.level .warning), none, none, none⟩
    let t := (stamped (stamped found inner) outer).run .null none sampleScope
    let b := (stamped found (outer.above inner)).run .null none sampleScope
    let w := (stamped found ⟨none, some "profile", none, some false⟩).run .null none sampleScope
    (Forest.after sampleActions).view 1 = some sampleScope ∧
      o = (withMetadata found (sampleSource.after sampleEnricher)).run .null none sampleScope ∧
      o.result.failures.map (·.source) = [none, none, none, none, some "group", some "group"] ∧
      (∃ added added', t.result = sampleScope.addAll added ∧ b.result = sampleScope.addAll added' ∧
        List.Forall₂ Failure.SameButOrder added added') ∧
      (t.result.failures.drop 4).map (·.parameters.keys) =
        [["category", "severity"], ["category", "severity"]] ∧
      (b.result.failures.drop 4).map (·.parameters.keys) =
        [["severity", "category"], ["severity", "category"]] ∧
      ∃ built, configure (some found) sampleSettings = .ok built ∧
        built.run .null none sampleScope = w := by
  intro found o inner outer t b w
  have hview : (Forest.after sampleActions).view 1 = some sampleScope := rfl
  obtain ⟨hwrapped, hstamped, hbuilt⟩ := wrappers_compose sampleActions hview found .null none
  have hadded : (found.run .null none sampleScope).result.failures.drop sampleScope.size =
      [.sample .path "g", .sample .field "h"] := rfl
  have haccepts (x : Failure) (hcode : x.code ≠ "stop") :
      ∃ y z, sampleEnricher.Accepts x y ∧ sampleSource.Accepts y z :=
    ⟨_, _, ⟨if_neg hcode, rfl⟩, ⟨rfl, rfl⟩⟩
  refine ⟨hview, hwrapped _ _ ?_, rfl, ?_, rfl, rfl, ?_⟩
  · rw [hadded]
    exact List.forall_mem_cons.mpr
      ⟨haccepts _ (by decide), List.forall_mem_singleton.mpr (haccepts _ (by decide))⟩
  · have hinner : inner.Proper := fun _ hlabel => by cases hlabel
    have houter : outer.Proper := fun _ hlabel => ⟨.warning, (Option.some.inj hlabel).symm⟩
    obtain ⟨_, _, _, honce, htwice, hboth, -, -, hsame⟩ := hstamped inner outer hinner houter
    obtain rfl := Option.some.inj honce
    obtain rfl := Option.some.inj htwice
    obtain rfl := Option.some.inj hboth
    exact hsame
  · obtain ⟨built, _, hconfigured, hwhole, hrun⟩ := hbuilt sampleSettings
    obtain rfl := Option.some.inj hwhole
    exact ⟨built, hconfigured, hrun⟩

end Rule

end Verdict
