import Mathlib.Data.List.Nodup
import Verdict.Message.Builtin
import Verdict.Proofs.Message.Cache

/-!
# The slots of templates

A template asks for the values of the parameters that its slots name, and `slotNames` lists the
names (`mem_slotNames`). Where a value is missing the message has a gap, and nothing tells of it.
`Segment.ShowsAll` is a message without gaps; a template has one if every name that it asks for has
a value (`Segment.showsAll_render`).

Every code of the catalog has a built-in template, which is found under the text of the code
(`Code.get?_builtinTemplates`). What it asks for is told by its characters.
-/

namespace Verdict

/-! ## Names -/

theorem mem_collectNames {name : String} {segments : List Segment} {seen : List String} :
    name ∈ collectNames seen segments ↔ name ∈ seen ∨ .slot name ∈ segments := by
  induction segments generalizing seen with
  | nil => exact (or_iff_left List.not_mem_nil).symm
  | cons s rest ih =>
    cases s with
    | text content =>
      rw [collectNames, Segment.slotName?]
      simp only [ih, List.mem_cons, reduceCtorEq, false_or]
    | slot other =>
      rw [collectNames, Segment.slotName?]
      by_cases hseen : other ∈ seen
      · simp only [if_pos hseen, ih, List.mem_cons, Segment.slot.injEq]
        refine ⟨fun h => h.imp_right .inr, ?_⟩
        rintro (hname | rfl | hrest)
        · exact .inl hname
        · exact .inl hseen
        · exact .inr hrest
      · simp only [if_neg hseen, ih, List.mem_append, List.mem_cons, List.not_mem_nil, or_false,
          Segment.slot.injEq, or_assoc]

/-- The names that a template asks for are those of its slots. -/
theorem mem_slotNames {name template : String} :
    name ∈ slotNames template ↔ .slot name ∈ Segment.compile template := by
  rw [slotNames, mem_collectNames]
  exact or_iff_right List.not_mem_nil

/-- A template asks for nothing but the given names. -/
def AsksOnly (template : String) (names : List String) : Prop :=
  ∀ name ∈ slotNames template, name ∈ names

theorem AsksOnly.mono {template : String} {names more : List String} (h : AsksOnly template names)
    (hmore : ∀ name ∈ names, name ∈ more) : AsksOnly template more :=
  fun name hname => hmore name (h name hname)

/-- What a template asks for is told by its characters. -/
theorem asksOnly_ofList {cs : List Char} {names : List String}
    (h : ∀ name ∈ (Segment.scan [] none cs).filterMap Segment.slotName?, name ∈ names) :
    AsksOnly (String.ofList cs) names := by
  intro name hname
  rw [mem_slotNames, Segment.compile, String.toList_ofList] at hname
  exact h name (List.mem_filterMap.mpr ⟨_, hname, rfl⟩)

/-! ## Messages without gaps -/

namespace Segment

/-- The message that segments show if every slot is filled: texts as they are, and for a slot the
value of the parameter of its name, which has to be there and must not be nothing. -/
inductive ShowsAll (parameters : Parameters) : List Segment → String → Prop where
  | nothing : ShowsAll parameters [] ""
  | text {content : String} {rest : List Segment} {shown : String}
    (h : ShowsAll parameters rest shown) :
    ShowsAll parameters (.text content :: rest) (content ++ shown)
  | slot {name : String} {value : Value} {rest : List Segment} {shown : String}
    (hvalue : parameters.get? name = some value) (hnull : value.isNull = false)
    (h : ShowsAll parameters rest shown) :
    ShowsAll parameters (.slot name :: rest) (value.display ++ shown)

/-- If every slot has a value, the message shows them all. -/
theorem showsAll_render {segments : List Segment} {parameters : Parameters}
    (h : ∀ name, .slot name ∈ segments →
      ∃ value, parameters.get? name = some value ∧ value.isNull = false) :
    ShowsAll parameters segments (render segments parameters) := by
  induction segments with
  | nil => exact .nothing
  | cons s rest ih =>
    have hrest := ih fun name hname => h name (List.mem_cons_of_mem _ hname)
    rw [render_cons]
    cases s with
    | text content => exact .text hrest
    | slot name =>
      obtain ⟨value, hvalue, hnull⟩ := h name List.mem_cons_self
      rw [fill_of_value hvalue hnull]
      exact .slot hvalue hnull hrest

end Segment

/-! ## Built-in templates -/

/-- Tables made from names that are all different are read by them. -/
theorem Table.get?_map {α β : Type} {key : β → String} (hkey : Function.Injective key)
    (entry : β → α) {l : List β} {b : β} (h : b ∈ l) :
    Table.get? (key b) (l.map fun b => (key b, entry b)) = some (entry b) := by
  induction l with
  | nil => cases h
  | cons c rest ih =>
    rw [List.map_cons, Table.get?]
    by_cases heq : key c = key b
    · rw [if_pos heq, hkey heq]
    · rw [if_neg heq]
      refine ih ((List.mem_cons.mp h).resolve_left ?_)
      rintro rfl
      exact heq rfl

namespace Code

theorem mem_templateOrder (c : Code) : c ∈ templateOrder := by
  cases c <;> decide

/-- No two codes of the catalog have the same text. -/
theorem text_injective : Function.Injective text := by
  have hnodup : (templateOrder.map text).Nodup := by
    simp [templateOrder, text]
  intro c d h
  exact List.inj_on_of_nodup_map hnodup (mem_templateOrder c) (mem_templateOrder d) h

/-- The built-in template of a code is found under its text. -/
theorem get?_builtinTemplates (c : Code) : builtinTemplates.get? c.text = some c.template :=
  Table.get?_map text_injective template (mem_templateOrder c)

theorem text_ne_empty (c : Code) : c.text ≠ "" := by
  cases c <;> simp [text]

theorem isKnown_text (c : Code) : isKnown c.text = true :=
  List.any_eq_true.mpr ⟨c, mem_all c, beq_self_eq_true _⟩

/-- The parameters of failures under a code, apart from the element: what there is to say of a
check with that code, and nothing for a check without arguments. -/
def parameterNames : Code → List String
  | .isEqual | .isNotEqual => [Parameter.value]
  | .satisfies | .allMatch | .anyMatch | .noneMatch => [Parameter.condition]
  | .isInstanceOf | .isNotInstanceOf => [Parameter.className]
  | .isInEnum => [Parameter.className, Parameter.allowedValues]
  | .isSameAs | .isNotSameAs => [Parameter.reference]
  | .oneOf | .oneOfIgnoreCase | .allowedValuesContains | .allowedValuesOneOf | .notContains
  | .noneOf => [Parameter.allowedValues]
  | .minLength => [Parameter.minLength, Parameter.min]
  | .maxLength => [Parameter.maxLength, Parameter.max]
  | .exactLength => [Parameter.exactLength]
  | .matchesPattern => [Parameter.pattern]
  | .startsWith => [Parameter.prefixText]
  | .endsWith => [Parameter.suffixText]
  | .contains => [Parameter.substring]
  | .min => [Parameter.min]
  | .max => [Parameter.max]
  | .range => [Parameter.min, Parameter.max]
  | .minSize => [Parameter.minSize]
  | .maxSize => [Parameter.maxSize]
  | .exactSize => [Parameter.exactSize]
  | .sizeRange => [Parameter.minSize, Parameter.maxSize]
  | .collectionContains | .doesNotContain => [Parameter.element]
  | .containsAll | .containsNone => [Parameter.elements]
  | .dateTimeInRange => [Parameter.minDate, Parameter.maxDate]
  | .before | .after | .beforeOrEquals | .afterOrEquals | .equalsDate => [Parameter.referenceDate]
  | .inMonth => [Parameter.month]
  | .inYear => [Parameter.year]
  | .timeInRange => ["minTime", "maxTime"]
  | .timeBefore | .timeAfter | .timeBeforeOrEquals | .timeAfterOrEquals | .timeEquals =>
    ["referenceTime"]
  | .isMorning | .isAfternoon | .isEvening | .isBusinessHours | .isLunchHour => ["timeRange"]
  | .hoursBetween => ["minHour", "maxHour"]
  | .minutesBetween => ["minMinute", "maxMinute"]
  | .secondsBetween => ["minSecond", "maxSecond"]
  | .inTimeZone => ["timeZone"]
  | _ => []

/-- The built-in template of a code asks for nothing else. -/
theorem asksOnly_template (c : Code) :
    AsksOnly c.template (Parameter.field :: c.parameterNames) := by
  cases c <;> exact asksOnly_ofList (by decide +kernel)

end Code

end Verdict
