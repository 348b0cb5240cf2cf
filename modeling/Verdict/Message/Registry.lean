import Verdict.Failure
import Verdict.Message.Provider

/-!
# The registry of providers

A registry routes codes to providers; the last write of a route wins. Registering a provider writes
the routes of the catalog codes that it supports at that moment; a single route can be written for
any code. A code without a route is shown by the default provider.

Providers are known to a registry by reference only; a `Desk` keeps the providers themselves next
to the registry and shows messages.
-/

namespace Verdict

/-! ## Routes -/

/-- Routes from codes to providers, and the provider for all other codes. A route may have been
written with no provider, and then counts as missing. -/
structure Registry (π : Type) where
  fallback : Option π
  routes : Table (Option π)
deriving Inhabited

namespace Registry

variable {π : Type}

/-- The catalog codes that a provider supports. -/
def claimedBy (supports : String → Bool) : List String :=
  (Code.all.map (·.text)).filter supports

/-- The registry with every catalog code that the provider supports routed to it. -/
def register (r : Registry π) (provider : π) (kind : String) (supports : String → Bool) :
    Registry π × List LogEvent :=
  let claimed := claimedBy supports
  ({ r with routes := claimed.foldl (fun t code => t.set code (some provider)) r.routes },
    [.registered kind claimed.length Code.all.length])

/-- The registry with one code routed to a provider, whatever it supports. -/
def setProviderForCode (r : Registry π) (code : String) (provider : Option π) : Registry π :=
  { r with routes := r.routes.set code provider }

/-- The registry with another default provider, which is registered too. -/
def setDefault (r : Registry π) (provider : π) (kind : String) (supports : String → Bool) :
    Registry π × List LogEvent :=
  { r with fallback := some provider }.register provider kind supports

/-- A registry whose default provider is registered. -/
def new (provider : π) (kind : String) (supports : String → Bool) : Registry π × List LogEvent :=
  Registry.setDefault ⟨none, []⟩ provider kind supports

/-- The provider of a code, and the record of a missing route. -/
def providerFor (r : Registry π) (code : String) : Option π × List LogEvent :=
  match r.routes.get? code with
  | some (some provider) => (some provider, [])
  | _ => (r.fallback, [.routeMissing code])

end Registry

/-- The parameters of a message: those given, over the field of the identifier if there is one. -/
def messageParameters (identifier : Option Identifier) (parameters : Parameters) : Parameters :=
  match identifier with
  | some id => Table.overlay [(Parameter.field, .text id.text)] parameters
  | none => parameters

/-! ## Sources -/

/-- What can show messages: a table of templates, or a provider of the caller's own that never
changes. -/
inductive MessageSource where
  | templates (p : Provider)
  | custom (kind : String) (supports : String → Bool) (render : String → Parameters → String)

namespace MessageSource

/-- Whether the source has a message for the code. -/
def supports : MessageSource → String → Bool
  | templates p, code => p.supports code
  | custom _ supports _, code => supports code

/-- How the source is named in the log. -/
def kind : MessageSource → String
  | templates _ => Provider.kindName
  | custom kind _ _ => kind

/-- The message for a code, and the source after showing it. -/
def render : MessageSource → String → Parameters → String × MessageSource × List LogEvent
  | templates p, code, parameters =>
    let (text, p, logs) := p.render code parameters
    (text, templates p, logs)
  | custom kind supports show?, code, parameters =>
    (show? code parameters, custom kind supports show?, [])

end MessageSource

/-! ## Desks -/

/-- Sources by name, and the registry that routes codes to them. -/
structure Desk where
  sources : Table MessageSource
  registry : Registry String

/-- What an operation on a desk gives: the desk afterwards, the records, and the answer or the
fault. -/
structure DeskAnswer (α : Type) where
  desk : Desk
  logs : List LogEvent
  answer : Except Fault α

namespace Desk

/-- The source under a name that may be missing. -/
def source? (d : Desk) (name : Option String) : Option MessageSource :=
  name.bind d.sources.get?

/-- The desk with a source registered. There has to be one. -/
def register (d : Desk) (name : Option String) : DeskAnswer Unit :=
  match name, d.source? name with
  | some name, some source =>
    let (registry, logs) := d.registry.register name source.kind source.supports
    ⟨{ d with registry := registry }, logs, .ok ()⟩
  | _, _ => ⟨d, [], .error .missingMember⟩

/-- The desk with another default source, which is registered too. The default changes also when
there is no source to register. -/
def setDefault (d : Desk) (name : Option String) : DeskAnswer Unit :=
  { d with registry := { d.registry with fallback := name } }.register name

/-- A desk whose default source is the one under the name. -/
def new (sources : Table MessageSource) (name : String) : DeskAnswer Unit :=
  Desk.setDefault ⟨sources, ⟨none, []⟩⟩ (some name)

/-- The message for a code about an element. -/
def message (d : Desk) (code : String) (identifier : Option Identifier)
    (parameters : Parameters) : DeskAnswer String :=
  let (name, routing) := d.registry.providerFor code
  match name, d.source? name with
  | some name, some source =>
    let (text, source, logs) := source.render code (messageParameters identifier parameters)
    ⟨{ d with sources := d.sources.set name source }, routing ++ logs, .ok text⟩
  | _, _ => ⟨d, routing, .error .missingMember⟩

/-- The message for a failure. -/
def messageFor (d : Desk) (f : Failure) : DeskAnswer String :=
  d.message f.code (some f.identifier) f.parameters

/-- The messages for failures, in order. The first fault ends the work. -/
def messagesFor (d : Desk) : List Failure → DeskAnswer (List String)
  | [] => ⟨d, [], .ok []⟩
  | f :: rest =>
    let first := d.messageFor f
    match first.answer with
    | .error fault => ⟨first.desk, first.logs, .error fault⟩
    | .ok text =>
      let others := first.desk.messagesFor rest
      ⟨others.desk, first.logs ++ others.logs, others.answer.map (text :: ·)⟩

/-- The name under which a desk of its own keeps its provider. -/
def builtinName : String := "builtin"

/-- A desk with one provider. -/
def single (p : Provider) : DeskAnswer Unit := new [(builtinName, .templates p)] builtinName

/-- A desk with the built-in templates. -/
def builtin : DeskAnswer Unit := single (Provider.new [] true)

/-- The messages for failures at a desk with the built-in templates. -/
def builtinMessages (fs : List Failure) : DeskAnswer (List String) :=
  let shown := builtin.desk.messagesFor fs
  { shown with logs := builtin.logs ++ shown.logs }

end Desk

end Verdict
