import Verdict.Message.Provider
import Verdict.Proofs.Table

/-!
# The cache does not show

A provider answers from two tables: templates by code, and compiled templates by their text. Codes
share compiled entries, setting a template evicts by the new text alone, and callers can fill, evict
and clear the cache as they like. None of that shows in a message.

The invariant is `Provider.Faithful`: a cached entry is what its text compiles to. Every call keeps
it (`Faithful.act`), since entries are only ever added by compiling. A message is then read off the
template of its code (`Faithful.render_eq`), and that is the one that was set last
(`get?_templates_follow`). `render_after` puts these together for every provider and every list of
calls.
-/

namespace Verdict

/-! ## Messages -/

/-- The message that segments show under given parameters: texts as they are, and for a slot the
value of the parameter of its name, if there is one and it is not nothing. -/
inductive Segment.Shows (parameters : Parameters) : List Segment → String → Prop where
  | nothing : Shows parameters [] ""
  | text {content : String} {rest : List Segment} {shown : String}
    (h : Shows parameters rest shown) :
    Shows parameters (.text content :: rest) (content ++ shown)
  | slot {name : String} {value : Value} {rest : List Segment} {shown : String}
    (hvalue : parameters.get? name = some value) (hnull : value.isNull = false)
    (h : Shows parameters rest shown) :
    Shows parameters (.slot name :: rest) (value.display ++ shown)
  | gap {name : String} {rest : List Segment} {shown : String}
    (hgap : ∀ value, parameters.get? name = some value → value.isNull = true)
    (h : Shows parameters rest shown) : Shows parameters (.slot name :: rest) shown

namespace Segment

variable {parameters : Parameters}

theorem fill_of_value {name : String} {value : Value} (hvalue : parameters.get? name = some value)
    (hnull : value.isNull = false) : fill parameters (.slot name) = value.display := by
  rw [fill, hvalue]
  cases value with
  | null => cases hnull
  | _ => rfl

theorem fill_of_gap {name : String}
    (hgap : ∀ value, parameters.get? name = some value → value.isNull = true) :
    fill parameters (.slot name) = "" := by
  rw [fill]
  rcases hget : parameters.get? name with _ | value
  · rfl
  · cases value with
    | null => rfl
    | _ => cases hgap _ hget

theorem render_cons (s : Segment) (rest : List Segment) (parameters : Parameters) :
    render (s :: rest) parameters = fill parameters s ++ render rest parameters := by
  rw [render, List.map_cons, String.join_cons, render]

/-- Only the parameters that slots name matter. -/
theorem render_congr {segments : List Segment} {p q : Parameters}
    (h : ∀ name, .slot name ∈ segments → p.get? name = q.get? name) :
    render segments p = render segments q := by
  induction segments with
  | nil => rfl
  | cons s rest ih =>
    rw [render_cons, render_cons, ih fun name hname => h name (List.mem_cons_of_mem _ hname)]
    cases s with
    | text content => rfl
    | slot name => rw [fill, fill, h name List.mem_cons_self]

theorem shows_render (segments : List Segment) (parameters : Parameters) :
    Shows parameters segments (render segments parameters) := by
  induction segments with
  | nil => exact .nothing
  | cons s rest ih =>
    rw [render_cons]
    cases s with
    | text content => exact .text ih
    | slot name =>
      by_cases hgap : ∀ value, parameters.get? name = some value → value.isNull = true
      · rw [fill_of_gap hgap, String.empty_append]
        exact .gap hgap ih
      · obtain ⟨value, hvalue, hnull⟩ : ∃ value, parameters.get? name = some value ∧
            value.isNull = false := by simpa using hgap
        rw [fill_of_value hvalue hnull]
        exact .slot hvalue hnull ih

/-- Segments show one message, and rendering gives it. -/
theorem shows_iff (segments : List Segment) (parameters : Parameters) (shown : String) :
    Shows parameters segments shown ↔ render segments parameters = shown := by
  constructor
  · intro h
    induction h with
    | nothing => rfl
    | text _ ih => rw [render_cons, ih, fill]
    | slot hvalue hnull _ ih => rw [render_cons, ih, fill_of_value hvalue hnull]
    | gap hgap _ ih => rw [render_cons, ih, fill_of_gap hgap, String.empty_append]
  · rintro rfl
    exact shows_render segments parameters

end Segment

/-! ## Calls -/

namespace Provider

/-- A step that callers can take with a provider. -/
inductive Call where
  | setTemplate (code template : String)
  | setTemplates (templates : Table String)
  | render (code : String) (parameters : Parameters)
  /-- The compiled form of a template is asked for. -/
  | cached (template : String)
  | evict (template : String)
  | clear

/-- The provider after a call. -/
def act (p : Provider) : Call → Provider
  | .setTemplate code template => p.setTemplate code template
  | .setTemplates templates => p.setTemplates templates
  | .render code parameters => (p.render code parameters).2.1
  | .cached template => { p with cache := (p.cache.get template).2.1 }
  | .evict template => p.evict template
  | .clear => p.clear

/-- The provider after a list of calls. -/
def follow (p : Provider) (calls : List Call) : Provider := calls.foldl act p

theorem follow_cons (p : Provider) (c : Call) (rest : List Call) :
    p.follow (c :: rest) = (p.act c).follow rest := rfl

/-! ## The invariant -/

variable {p : Provider}

/-- From a faithful cache one gets what the template compiles to, found there or not. -/
theorem Faithful.get_fst (h : p.Faithful) (template : String) :
    (p.cache.get template).1 = Segment.compile template := by
  rw [TemplateCache.get]
  rcases hfound : p.cache.get? template with _ | segments
  · rfl
  · exact h template segments hfound

theorem faithful_empty (templates : Table String) : Faithful ⟨templates, []⟩ :=
  fun _ _ h => by cases h

/-- An entry that is added was compiled from its text. -/
theorem Faithful.get (h : p.Faithful) (template : String) :
    Faithful { p with cache := (p.cache.get template).2.1 } := by
  intro other segments hother
  rw [TemplateCache.get] at hother
  rcases hfound : p.cache.get? template with _ | old
  · simp only [hfound, Table.get?_set] at hother
    by_cases heq : template = other
    · rw [if_pos heq] at hother
      rw [← Option.some.inj hother, heq]
    · rw [if_neg heq] at hother
      exact h other segments hother
  · simp only [hfound] at hother
    exact h other segments hother

theorem Faithful.erase (h : p.Faithful) (templates : Table String) (template : String) :
    Faithful ⟨templates, p.cache.erase template⟩ := by
  intro other segments hother
  rw [Table.get?_erase] at hother
  by_cases heq : template = other
  · rw [if_pos heq] at hother
    cases hother
  · rw [if_neg heq] at hother
    exact h other segments hother

theorem Faithful.setTemplates (h : p.Faithful) (templates : Table String) :
    (p.setTemplates templates).Faithful := by
  induction templates generalizing p with
  | nil => exact h
  | cons e rest ih => exact ih (h.erase _ _)

/-- Every call keeps the cache faithful. -/
theorem Faithful.act (h : p.Faithful) (c : Call) : (p.act c).Faithful := by
  cases c with
  | setTemplate code template => exact h.erase _ template
  | setTemplates templates => exact h.setTemplates templates
  | render code parameters => exact h.get _
  | cached template => exact h.get template
  | evict template => exact h.erase _ template
  | clear => exact faithful_empty p.templates

theorem Faithful.follow (h : p.Faithful) (calls : List Call) : (p.follow calls).Faithful := by
  induction calls generalizing p with
  | nil => exact h
  | cons c rest ih => exact ih (h.act c)

theorem faithful_new (templates : Table String) (includeBuiltin : Bool) :
    (new templates includeBuiltin).Faithful := (faithful_empty _).setTemplates templates

/-! ## The templates -/

/-- The templates that a call sets, by code. -/
def Call.settings : Call → Table String
  | .setTemplate code template => [(code, template)]
  | .setTemplates templates => templates
  | _ => []

theorem templates_setTemplates (p : Provider) (templates : Table String) :
    (p.setTemplates templates).templates = p.templates.overlay templates := by
  induction templates generalizing p with
  | nil => rfl
  | cons e rest ih => exact ih (p.setTemplate e.1 e.2)

/-- The cache loses the entries of the texts that are set, and no others. -/
theorem cache_setTemplates (p : Provider) (templates : Table String) :
    (p.setTemplates templates).cache = p.cache.without (templates.map (·.2)) := by
  induction templates generalizing p with
  | nil => simp [setTemplates, Table.without]
  | cons e rest ih => exact (ih (p.setTemplate e.1 e.2)).trans (Table.without_erase ..)

/-- A call writes what it sets over the templates, and does nothing else to them. -/
theorem templates_act (p : Provider) (c : Call) :
    (p.act c).templates = p.templates.overlay c.settings := by
  cases c with
  | setTemplates templates => exact templates_setTemplates p templates
  | _ => rfl

/-- The template of a code after some calls is the last that they set, or the one before them. -/
theorem get?_templates_follow (p : Provider) (calls : List Call) (code : String) :
    (p.follow calls).templates.get? code =
      (Table.last? code (calls.flatMap Call.settings)).or (p.templates.get? code) := by
  induction calls generalizing p with
  | nil => rfl
  | cons c rest ih =>
    rw [follow_cons, ih, templates_act, Table.get?_overlay, List.flatMap_cons, Table.last?_append,
      Option.or_assoc]

/-- The message for a code is that of its template, or of the fallback. -/
theorem Faithful.render_eq (h : p.Faithful) (code : String) (parameters : Parameters) :
    (p.render code parameters).1 =
      Segment.render (Segment.compile ((p.templates.get? code).getD fallbackTemplate))
        parameters := by
  have htemplate : (p.templateFor code).1 = (p.templates.get? code).getD fallbackTemplate := by
    rw [templateFor]
    rcases p.templates.get? code with _ | template
    · rfl
    · rfl
  rw [render]
  simp only [h.get_fst, htemplate]

/-- Setting templates does not change the messages for other codes. -/
theorem Faithful.render_setTemplates (h : p.Faithful) {templates : Table String} {code : String}
    (hcode : code ∉ templates.keys) (parameters : Parameters) :
    ((p.setTemplates templates).render code parameters).1 = (p.render code parameters).1 := by
  rw [(h.setTemplates templates).render_eq, h.render_eq, templates_setTemplates,
    Table.get?_overlay, Table.last?_eq_none hcode, Option.none_or]

/-! ## All together -/

/-- The template that was set last for a code, if one was: by the calls, before them by the
templates that the provider was made with, and before these by the built-in ones, if wanted. -/
def lastSet (templates : Table String) (includeBuiltin : Bool) (calls : List Call)
    (code : String) : Option String :=
  (Table.last? code (templates ++ calls.flatMap Call.settings)).or
    (if includeBuiltin then builtinTemplates.get? code else none)

theorem get?_templates_follow_new (templates : Table String) (includeBuiltin : Bool)
    (calls : List Call) (code : String) :
    ((new templates includeBuiltin).follow calls).templates.get? code =
      lastSet templates includeBuiltin calls code := by
  rw [get?_templates_follow, new, templates_setTemplates, Table.get?_overlay, lastSet,
    Table.last?_append, Option.or_assoc]
  cases includeBuiltin <;> rfl

/-- **The cache does not show**: whatever is done with a provider and its cache, every cached entry
is what its text compiles to; the message for a code is what the template that was set last for it
shows, or the fallback if none was set; and the provider supports the codes for which one was set.
So providers with other histories show the same messages for a code, if only the template that was
set last for it is the same. -/
theorem render_after (templates : Table String) (includeBuiltin : Bool) (calls : List Call) :
    let p := (new templates includeBuiltin).follow calls
    (∀ template segments, p.cache.get? template = some segments →
      segments = Segment.compile template) ∧
    (∀ code parameters shown, (p.render code parameters).1 = shown ↔ Segment.Shows parameters
      (Segment.compile ((lastSet templates includeBuiltin calls code).getD fallbackTemplate))
      shown) ∧
    (∀ code, p.supports code = true ↔
      ∃ template, lastSet templates includeBuiltin calls code = some template) ∧
    ∀ templates' includeBuiltin' calls' code,
      lastSet templates' includeBuiltin' calls' code = lastSet templates includeBuiltin calls code →
      ∀ parameters, (((new templates' includeBuiltin').follow calls').render code parameters).1 =
        (p.render code parameters).1 := by
  have hrender (templates : Table String) (includeBuiltin : Bool) (calls : List Call)
      (code : String) (parameters : Parameters) :
      (((new templates includeBuiltin).follow calls).render code parameters).1 =
        Segment.render (Segment.compile
          ((lastSet templates includeBuiltin calls code).getD fallbackTemplate)) parameters := by
    rw [((faithful_new templates includeBuiltin).follow calls).render_eq,
      get?_templates_follow_new]
  refine ⟨(faithful_new templates includeBuiltin).follow calls, fun code parameters shown => ?_,
    fun code => ?_, fun templates' includeBuiltin' calls' code hsame parameters => ?_⟩
  · rw [hrender, Segment.shows_iff]
  · rw [supports, Table.has, get?_templates_follow_new, Option.isSome_iff_exists]
  · rw [hrender, hrender, hsame]

/-- Two codes come to share a text and its cached entry, and the first then has another text. -/
def sampleCalls : List Call :=
  [.setTemplate "a" "{x}?", .setTemplate "b" "{x}?", .render "a" [], .setTemplate "a" "<{x}{y}>",
    .render "a" [], .evict "{x}?", .render "b" [], .setTemplate "c" "<{x}{y}>"]

/-- A parameter whose value looks like a slot, and one that is nothing. -/
def sampleParameters : Parameters := [("x", .text "{y}"), ("y", .null)]

/-- The first code shows its new text, as at a provider where nothing else ever happened, while an
entry of the old text is still there. -/
theorem render_after_sampleCalls :
    let p := (new [] true).follow sampleCalls
    let other := (new [("a", "<{x}{y}>")] false).follow []
    p.cache.get? "{x}?" = some [.slot "x", .text "?"] ∧ p.supports "a" = true ∧
      lastSet [("a", "<{x}{y}>")] false [] "a" = lastSet [] true sampleCalls "a" ∧
      (p.render "a" sampleParameters).1 = "<{y}>" ∧
      (other.render "a" sampleParameters).1 = "<{y}>" := by
  intro p other
  obtain ⟨-, hshows, hsupports, hsame⟩ := render_after [] true sampleCalls
  have hlast : lastSet [] true sampleCalls "a" = some "<{x}{y}>" := by rfl
  have hother : lastSet [("a", "<{x}{y}>")] false [] "a" = lastSet [] true sampleCalls "a" := by rfl
  have hvalue : sampleParameters.get? "x" = some (.text "{y}") := rfl
  have hgap : ∀ value, sampleParameters.get? "y" = some value → value.isNull = true := by
    intro value h
    obtain rfl := Option.some.inj h
    rfl
  have hrender : (p.render "a" sampleParameters).1 = "<{y}>" := by
    rw [hshows, hlast]
    exact .text (.slot hvalue rfl (.gap hgap (.text .nothing)))
  exact ⟨by rfl, (hsupports "a").mpr ⟨_, hlast⟩, hother, hrender,
    (hsame _ _ _ _ hother _).trans hrender⟩

end Provider

end Verdict
