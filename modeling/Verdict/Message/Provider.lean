import Verdict.Message.Builtin
import Verdict.Message.Log

/-!
# Message providers

A provider keeps a table of templates by code and shows the message for a code. Compiled templates
are kept in a cache by their text, so codes with one text share an entry; setting a template evicts
the entry of its text. `Provider.Faithful` says that every cached entry is what its text compiles
to, which every operation keeps: the cache never shows in a message.
-/

namespace Verdict

/-- Compiled templates by their text. -/
abbrev TemplateCache := Table (List Segment)

namespace TemplateCache

/-- The compiled form of a template, from the cache or compiled now and put there. -/
def get (template : String) (cache : TemplateCache) :
    List Segment × TemplateCache × List LogEvent :=
  match cache.get? template with
  | some segments => (segments, cache, [])
  | none =>
    let segments := Segment.compile template
    (segments, cache.set template segments, [.compiled template segments.length])

end TemplateCache

/-- A table of templates with its cache. -/
structure Provider where
  templates : Table String
  cache : TemplateCache
deriving Inhabited

namespace Provider

/-- How a provider is named in the log. -/
def kindName : String := "DefaultMessageProvider"

/-- Whether the provider has a template for the code. -/
def supports (p : Provider) (code : String) : Bool := p.templates.has code

/-- The provider with a template for a code. The compiled form of the new text is forgotten; that
of the old text is kept. -/
def setTemplate (p : Provider) (code template : String) : Provider :=
  { templates := p.templates.set code template, cache := p.cache.erase template }

/-- The provider with templates set one after the other. -/
def setTemplates (p : Provider) (templates : Table String) : Provider :=
  templates.foldl (fun p e => p.setTemplate e.1 e.2) p

/-- A provider with the given templates, over the built-in ones if they are wanted. -/
def new (templates : Table String) (includeBuiltin : Bool) : Provider :=
  setTemplates ⟨if includeBuiltin then builtinTemplates else [], []⟩ templates

/-- The template that shows a code, and the record of a missing one. -/
def templateFor (p : Provider) (code : String) : String × List LogEvent :=
  match p.templates.get? code with
  | some template => (template, [])
  | none => (fallbackTemplate, [.templateMissing code])

/-- The message for a code under given parameters. -/
def render (p : Provider) (code : String) (parameters : Parameters) :
    String × Provider × List LogEvent :=
  let (template, missing) := p.templateFor code
  let (segments, cache, compiled) := p.cache.get template
  (Segment.render segments parameters, { p with cache := cache }, missing ++ compiled)

/-- The provider without the compiled form of a template. -/
def evict (p : Provider) (template : String) : Provider :=
  { p with cache := p.cache.erase template }

/-- The provider without any compiled form. -/
def clear (p : Provider) : Provider := { p with cache := [] }

/-- Every cached entry is what its text compiles to. -/
def Faithful (p : Provider) : Prop :=
  ∀ template segments, p.cache.get? template = some segments → segments = Segment.compile template

end Provider

end Verdict
