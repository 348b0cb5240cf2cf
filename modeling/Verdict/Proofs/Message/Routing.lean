import Verdict.Message.Registry
import Verdict.Proofs.Table

/-!
# The last write of a route wins

A registry is told of providers in three ways: one is registered, one becomes the default, or one
is given a code. What a provider supports is asked at the moment of the call only, and may change
afterwards. A `Switchboard` is a registry with what the providers support at the moment.

Each call writes the routes of some codes and leaves the others (`get?_routes_act`), so that a
route is that of the last call that wrote it (`get?_routes_follow`). The rest is said by
`providerFor_after`: a code whose route no call wrote goes to the last default.
-/

namespace Verdict

namespace Registry

/-- The catalog codes that a provider claims are those that it supports. -/
theorem mem_claimedBy (supports : String → Bool) (code : String) :
    code ∈ claimedBy supports ↔ (Code.isKnown code && supports code) = true := by
  rw [claimedBy, List.mem_filter, Bool.and_eq_true_iff, Code.isKnown, List.any_eq_true,
    List.mem_map]
  simp only [beq_iff_eq]

/-- Registering writes the routes of the catalog codes that the provider supports. -/
theorem get?_routes_register {π : Type} (r : Registry π) (provider : π) (kind : String)
    (supports : String → Bool) (code : String) :
    (r.register provider kind supports).1.routes.get? code =
      if Code.isKnown code && supports code then some (some provider) else r.routes.get? code := by
  rw [register, Table.get?_foldl_set]
  simp only [mem_claimedBy]

end Registry

/-- A registry, and what each provider supports at the moment. -/
structure Switchboard (π : Type) where
  registry : Registry π
  supports : π → String → Bool

namespace Switchboard

variable {π : Type}

/-- What can happen to a registry and its providers. -/
inductive Call (π : Type) where
  | register (provider : π)
  | setDefault (provider : π)
  | setProviderForCode (code : String) (provider : π)
  /-- The providers come to support other codes. -/
  | change (supports : π → String → Bool)

namespace Call

/-- The provider that a call writes as the route of a code, if it writes that route. A provider
that is given a code gets it; one that is registered gets the catalog codes that it supports. -/
def writer? (supports : π → String → Bool) (code : String) : Call π → Option π
  | register provider | setDefault provider =>
    if Code.isKnown code && supports provider code then some provider else none
  | setProviderForCode other provider => if other = code then some provider else none
  | change _ => none

/-- The provider that a call makes the default, if it is such a call. -/
def default? : Call π → Option π
  | setDefault provider => some provider
  | _ => none

/-- What the providers support after a call. -/
def changed (supports : π → String → Bool) : Call π → π → String → Bool
  | change other => other
  | _ => supports

end Call

section Runs

variable (kind : π → String)

/-- The switchboard after a call; `kind` is how providers are named in the log. -/
def act (b : Switchboard π) : Call π → Switchboard π
  | .register provider =>
    { b with registry := (b.registry.register provider (kind provider) (b.supports provider)).1 }
  | .setDefault provider =>
    { b with registry := (b.registry.setDefault provider (kind provider) (b.supports provider)).1 }
  | .setProviderForCode code provider =>
    { b with registry := b.registry.setProviderForCode code (some provider) }
  | .change supports => { b with supports := supports }

/-- The switchboard after a list of calls. -/
def follow (b : Switchboard π) (calls : List (Call π)) : Switchboard π := calls.foldl (act kind) b

/-- A switchboard with a new registry, made with its first default. -/
def new (supports : π → String → Bool) (initial : π) : Switchboard π :=
  ⟨(Registry.new initial (kind initial) (supports initial)).1, supports⟩

theorem follow_cons (b : Switchboard π) (c : Call π) (rest : List (Call π)) :
    b.follow kind (c :: rest) = (b.act kind c).follow kind rest := rfl

/-! ## One call -/

theorem supports_act (b : Switchboard π) (c : Call π) :
    (b.act kind c).supports = c.changed b.supports := by
  cases c <;> rfl

theorem fallback_act (b : Switchboard π) (c : Call π) :
    (b.act kind c).registry.fallback = c.default?.or b.registry.fallback := by
  cases c <;> rfl

/-- A call writes the routes that it is to write, and no others. -/
theorem get?_routes_act (b : Switchboard π) (c : Call π) (code : String) :
    (b.act kind c).registry.routes.get? code =
      ((c.writer? b.supports code).map some).or (b.registry.routes.get? code) := by
  cases c with
  | register provider =>
    rw [act, Registry.get?_routes_register, Call.writer?]
    split <;> rfl
  | setDefault provider =>
    rw [act, Registry.setDefault, Registry.get?_routes_register, Call.writer?]
    split <;> rfl
  | setProviderForCode other provider =>
    rw [act, Registry.setProviderForCode, Table.get?_set, Call.writer?]
    split <;> rfl
  | change supports => rfl

/-! ## Any number of calls -/

/-- The provider that was written as the route of a code by the last of the calls that wrote it;
what the providers support before the calls is given. -/
def lastWriter? (code : String) : (π → String → Bool) → List (Call π) → Option π
  | _, [] => none
  | supports, c :: rest =>
    (lastWriter? code (c.changed supports) rest).or (c.writer? supports code)

/-- The provider that was made the default by the last of the calls that set it. -/
def lastDefault? : List (Call π) → Option π
  | [] => none
  | c :: rest => (lastDefault? rest).or c.default?

theorem get?_routes_follow (b : Switchboard π) (calls : List (Call π)) (code : String) :
    (b.follow kind calls).registry.routes.get? code =
      ((lastWriter? code b.supports calls).map some).or (b.registry.routes.get? code) := by
  induction calls generalizing b with
  | nil => rfl
  | cons c rest ih =>
    rw [follow_cons, ih, supports_act, get?_routes_act, lastWriter?, Option.map_or, Option.or_assoc]

theorem fallback_follow (b : Switchboard π) (calls : List (Call π)) :
    (b.follow kind calls).registry.fallback = (lastDefault? calls).or b.registry.fallback := by
  induction calls generalizing b with
  | nil => rfl
  | cons c rest ih =>
    rw [follow_cons, ih, fallback_act, lastDefault?, Option.or_assoc]

/-- Who wrote the route of a code that is not in the catalog was given that code. -/
theorem mem_of_lastWriter? {code : String} (hcode : Code.isKnown code = false)
    {supports : π → String → Bool} {calls : List (Call π)} {provider : π}
    (h : lastWriter? code supports calls = some provider) :
    .setProviderForCode code provider ∈ calls := by
  induction calls generalizing supports with
  | nil => cases h
  | cons c rest ih =>
    rw [lastWriter?, Option.or_eq_some_iff] at h
    rcases h with hrest | ⟨-, hc⟩
    · exact List.mem_cons_of_mem _ (ih hrest)
    · cases c with
      | setProviderForCode other p =>
        rw [Call.writer?] at hc
        split at hc
        next heq =>
          obtain rfl := Option.some.inj hc
          rw [heq]
          exact List.mem_cons_self
        next => cases hc
      | register _ | setDefault _ =>
        rw [Call.writer?, hcode] at hc
        cases hc
      | change _ => cases hc

/-- **The last write of a route wins**: the provider of a code is that of the last call that wrote
the route of the code, or the last default if no call did; making the registry counts as setting its
first default. A code that is not in the catalog is routed only by calls that give that code to a
provider. Registering a provider leaves the routes of codes that it does not support. -/
theorem providerFor_after (supports : π → String → Bool) (initial : π) (calls : List (Call π)) :
    let b := (new kind supports initial).follow kind calls
    let history := .setDefault initial :: calls
    (∀ code, (b.registry.providerFor code).1 =
      (lastWriter? code supports history).or (lastDefault? history)) ∧
    (∃ provider, lastDefault? history = some provider) ∧
    (∀ code route, Code.isKnown code = false → b.registry.routes.get? code = some route →
      ∃ provider, route = some provider ∧ .setProviderForCode code provider ∈ calls) ∧
    ∀ provider code, b.supports provider code = false →
      (b.act kind (.register provider)).registry.routes.get? code =
        b.registry.routes.get? code := by
  intro b history
  have hb : b = follow kind ⟨⟨none, []⟩, supports⟩ history := rfl
  have hroute (code : String) :
      b.registry.routes.get? code = (lastWriter? code supports history).map some := by
    rw [hb, get?_routes_follow, Table.get?_nil, Option.or_none]
  have hfallback : b.registry.fallback = lastDefault? history := by
    rw [hb, fallback_follow, Option.or_none]
  refine ⟨fun code => ?_, ?_, fun code route hcode hget => ?_, fun provider code hnot => ?_⟩
  · rw [Registry.providerFor, hroute, hfallback]
    rcases lastWriter? code supports history with _ | provider
    · rfl
    · rfl
  · rcases hlast : lastDefault? calls with _ | provider
    · exact ⟨initial, by rw [lastDefault?, hlast]; rfl⟩
    · exact ⟨provider, by rw [lastDefault?, hlast]; rfl⟩
  · rw [hroute] at hget
    obtain ⟨provider, hwriter, rfl⟩ := Option.map_eq_some_iff.mp hget
    rcases List.mem_cons.mp (mem_of_lastWriter? hcode hwriter) with heq | hmem
    · cases heq
    · exact ⟨provider, rfl, hmem⟩
  · rw [get?_routes_act, Call.writer?, hnot, Bool.and_false]
    rfl

end Runs

/-- The first provider supports all codes at first, the second one of them, the third none. -/
def sampleSupports (provider : Nat) (code : String) : Bool :=
  provider = 0 || provider = 1 && code = "number.min"

/-- A code of the caller's own and one of the catalog are routed, and the second provider no longer
supports the latter when it is registered again. -/
def sampleCalls : List (Call Nat) :=
  [.setProviderForCode "own" 2, .register 1, .setProviderForCode "number.min" 2,
    .change fun _ _ => false, .register 1, .setDefault 1]

theorem providerFor_after_sampleCalls :
    let b := (new Nat.repr sampleSupports 0).follow Nat.repr sampleCalls
    (b.registry.providerFor "own").1 = some 2 ∧ (b.registry.providerFor "number.min").1 = some 2 ∧
      (b.registry.providerFor "other").1 = some 1 ∧
      b.registry.routes.get? "own" = some (some 2) ∧ Code.isKnown "own" = false ∧
      .setProviderForCode "own" 2 ∈ sampleCalls ∧ b.supports 1 "number.min" = false ∧
      (b.act Nat.repr (.register 1)).registry.routes.get? "number.min" =
        b.registry.routes.get? "number.min" := by
  intro b
  obtain ⟨hprovider, -, hown, hkept⟩ := providerFor_after Nat.repr sampleSupports 0 sampleCalls
  have hroute : b.registry.routes.get? "own" = some (some 2) :=
    (get?_routes_follow Nat.repr _ sampleCalls "own").trans rfl
  have hunknown : Code.isKnown "own" = false := by rfl
  obtain ⟨provider, heq, hmem⟩ := hown "own" (some 2) hunknown hroute
  obtain rfl := Option.some.inj heq
  exact ⟨(hprovider _).trans rfl, (hprovider _).trans rfl, (hprovider _).trans rfl, hroute,
    hunknown, hmem, rfl, hkept 1 "number.min" rfl⟩

end Switchboard

end Verdict
