import Verdict.Proofs.Message.Cache
import Verdict.Proofs.Message.Routing

/-!
# A desk with one provider

A desk that was opened over one provider routes every code to it: the codes that the provider
supports since it was registered, all others since it is the default. So a message only depends on
the templates of the provider, and showing one changes nothing that a later one could tell.

`Desk.Serves` is this state of a desk. It holds of every desk over one provider (`serves_single`)
and every message keeps it (`Serves.message`), whence `Serves.messagesFor` for any number.
-/

namespace Verdict.Desk

/-- The message that templates give for a code about an element. -/
def textOf (templates : Table String) (code : String) (identifier : Option Identifier)
    (parameters : Parameters) : String :=
  Segment.render (Segment.compile ((templates.get? code).getD fallbackTemplate))
    (messageParameters identifier parameters)

/-- Every code is shown by one provider, which has the given templates. -/
structure Serves (templates : Table String) (d : Desk) : Prop where
  fallback : d.registry.fallback = some builtinName
  routes : ∀ code route, d.registry.routes.get? code = some route → route = some builtinName
  source : ∃ p, d.sources.get? builtinName = some (.templates p) ∧ p.Faithful ∧
    p.templates = templates

theorem serves_single {p : Provider} (hp : p.Faithful) :
    (single p).answer = .ok () ∧ Serves p.templates (single p).desk := by
  refine ⟨rfl, rfl, fun code route hroute => ?_, p, rfl, hp, rfl⟩
  have hregister := Registry.get?_routes_register ⟨some builtinName, []⟩ builtinName
    Provider.kindName p.supports code
  rw [show (single p).desk.registry.routes.get? code = _ from hregister] at hroute
  split at hroute
  next => exact (Option.some.inj hroute).symm
  next => cases hroute

namespace Serves

variable {templates : Table String} {d : Desk}

theorem providerFor_eq (h : d.Serves templates) (code : String) :
    (d.registry.providerFor code).1 = some builtinName := by
  rw [Registry.providerFor]
  rcases hroute : d.registry.routes.get? code with _ | route
  · exact h.fallback
  · rw [h.routes code route hroute]

/-- A message is that of the templates, and the next one will be, too. -/
theorem message (h : d.Serves templates) (code : String) (identifier : Option Identifier)
    (parameters : Parameters) :
    (d.message code identifier parameters).answer =
        .ok (textOf templates code identifier parameters) ∧
      Serves templates (d.message code identifier parameters).desk := by
  obtain ⟨p, hsource, hp, rfl⟩ := h.source
  have hname := h.providerFor_eq code
  have hfound : d.source? (some builtinName) = some (.templates p) := hsource
  have hkept : (p.act (.render code (messageParameters identifier parameters))).Faithful :=
    hp.act _
  have htext := hp.render_eq code (messageParameters identifier parameters)
  rw [Desk.message]
  simp only [hname, hfound, MessageSource.render]
  refine ⟨by rw [htext, textOf], h.fallback, h.routes, _, ?_, hkept, rfl⟩
  rw [Table.get?_set, if_pos rfl]
  rfl

/-- So are the messages for failures. -/
theorem messagesFor (h : d.Serves templates) (fs : List Failure) :
    (d.messagesFor fs).answer =
      .ok (fs.map fun f => textOf templates f.code (some f.identifier) f.parameters) := by
  induction fs generalizing d with
  | nil => rfl
  | cons f rest ih =>
    obtain ⟨hanswer, hserves⟩ := h.message f.code (some f.identifier) f.parameters
    rw [← messageFor] at hanswer hserves
    rw [Desk.messagesFor]
    simp only [hanswer, ih hserves]
    rfl

end Serves

theorem builtinMessages_answer (fs : List Failure) :
    (builtinMessages fs).answer =
      .ok (fs.map fun f => textOf builtinTemplates f.code (some f.identifier) f.parameters) :=
  (serves_single (Provider.faithful_new [] true)).2.messagesFor fs

end Verdict.Desk
