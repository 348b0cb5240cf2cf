import Verdict.Message.Registry
import Verdict.Proofs.Table

/-!
# The failures there can be

A failure is created with a code and parameters, and after that it only ever changes by having a
parameter written or by being given other labels. `Failure.Made` is the failures that come about in
this way. Each of them has the parameter `field`, which was seeded when it was created, and none
has a parameter twice, so a message for it needs no more than its own parameters
(`Failure.Made.get?_messageParameters`).

`Parameters.Given` says that no parameter is nothing, which would leave a gap in a message.
-/

namespace Verdict

/-- Every parameter has a value, and not nothing. -/
def Parameters.Given (p : Parameters) : Prop := ∀ e ∈ p, e.2.isNull = false

namespace Parameters

theorem given_nil : Given [] := fun _ h => by cases h

theorem given_singleton {name : String} {value : Value} (h : value.isNull = false) :
    Given [(name, value)] := List.forall_mem_singleton.mpr h

variable {p q : Parameters}

theorem Given.set (h : Given p) (name : String) {value : Value} (hvalue : value.isNull = false) :
    Given (p.set name value) :=
  Table.forall_mem_set (P := fun value : Value => value.isNull = false) h name hvalue

theorem Given.overlay (h : Given p) (hq : Given q) : Given (p.overlay q) :=
  Table.forall_mem_overlay (P := fun value : Value => value.isNull = false) h hq

/-- A parameter that is there then has a value. -/
theorem Given.exists_value (h : Given p) {name : String} (hname : name ∈ p.keys) :
    ∃ value, p.get? name = some value ∧ value.isNull = false := by
  obtain ⟨value, hvalue⟩ := Table.exists_get?_of_mem_keys hname
  exact ⟨value, hvalue, h (name, value) (Table.mem_of_get? hvalue)⟩

end Parameters

/-- A failure comes about by being created and then changed. -/
inductive Failure.Made : Failure → Prop where
  | created {identifier : Option Identifier} {code : Option String} {parameters : Parameters}
    {f : Failure} (h : create identifier code parameters = .ok f) : Made f
  | withParameter {f : Failure} (h : f.Made) (name : String) (value : Value) :
    Made (f.withParameter name value)
  /-- All but the parameters may become something else. -/
  | relabelled {f g : Failure} (h : f.Made) (hp : g.parameters = f.parameters) : Made g

namespace Failure

/-- Creating a failure succeeds if there are an element and a code, and writes the given parameters
over the seeded one. -/
theorem create_eq_ok {identifier : Option Identifier} {code : Option String}
    {parameters : Parameters} {f : Failure} (h : create identifier code parameters = .ok f) :
    ∃ id text, identifier = some id ∧ code = some text ∧ f.identifier = id ∧ f.code = text ∧
      f.parameters = Table.overlay [(Parameter.field, .text id.text)] parameters := by
  rcases identifier with _ | id
  · cases h
  rcases code with _ | text
  · cases h
  simp only [create] at h
  by_cases hempty : text = ""
  · rw [if_pos hempty] at h
    cases h
  · rw [if_neg hempty] at h
    obtain rfl := Except.ok.inj h
    exact ⟨id, text, rfl, rfl, rfl, rfl, rfl⟩

/-- Parameters written one after the other are written over those that were there. -/
theorem foldl_withParameter (f : Failure) (p : Parameters) :
    p.foldl (fun f e => f.withParameter e.1 e.2) f =
      { f with parameters := f.parameters.overlay p } := by
  induction p generalizing f with
  | nil => rfl
  | cons e rest ih =>
    rw [List.foldl_cons, ih]
    rfl

namespace Made

variable {f : Failure}

theorem withParameters (h : f.Made) (p : Parameters) :
    (p.foldl (fun f e => f.withParameter e.1 e.2) f).Made := by
  induction p generalizing f with
  | nil => exact h
  | cons e rest ih => exact ih (h.withParameter e.1 e.2)

/-- The element is among the parameters. -/
theorem field_mem_keys (h : f.Made) : Parameter.field ∈ f.parameters.keys := by
  induction h with
  | created h =>
    obtain ⟨id, text, -, -, -, -, hparameters⟩ := create_eq_ok h
    rw [hparameters, Table.mem_keys_overlay]
    exact .inl List.mem_cons_self
  | withParameter _ name value ih => exact Table.mem_keys_set.mpr (.inl ih)
  | relabelled _ hp ih =>
    rw [hp]
    exact ih

theorem nodup_keys (h : f.Made) : f.parameters.keys.Nodup := by
  induction h with
  | @created _ _ parameters _ h =>
    obtain ⟨id, text, -, -, -, -, hparameters⟩ := create_eq_ok h
    have hseed : (Table.keys [(Parameter.field, Value.text id.text)]).Nodup :=
      List.nodup_singleton Parameter.field
    rw [hparameters]
    exact Table.nodup_keys_overlay hseed parameters
  | withParameter _ name value ih => exact Table.nodup_keys_set ih name value
  | relabelled _ hp ih =>
    rw [hp]
    exact ih

/-- In a message for a failure, the failure's own parameters are all that there is. -/
theorem get?_messageParameters (h : f.Made) (identifier : Option Identifier) (name : String) :
    (messageParameters identifier f.parameters).get? name = f.parameters.get? name := by
  cases identifier with
  | none => rfl
  | some id =>
    rw [messageParameters, Table.get?_overlay, Table.last?_eq_get? h.nodup_keys]
    by_cases hname : Parameter.field = name
    · subst hname
      obtain ⟨value, hvalue⟩ := Table.exists_get?_of_mem_keys h.field_mem_keys
      rw [hvalue, Option.some_or]
    · rw [Table.get?, if_neg hname, Table.get?_nil, Option.or_none]

end Made

end Failure

end Verdict
