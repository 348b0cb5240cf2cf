import Verdict.Proofs.Failure

/-!
# Updates of a failure

Each update makes a failure anew, from what the earlier one held and what is changed, and so the
element is seeded among the parameters once more. This shows nowhere, for a failure that was created
has been seeded already, and updates only write over its parameters (`Failure.remade_of_seeded`).

So the parameters after any updates are the seeded one with those of the caller and then those of
the updates written over it, in this order, and each other attribute is what was put on last.
`Failure.foldlM_apply` gives the failure as a whole, and `Failure.updates_overlay` spells it out.
-/

namespace Verdict

namespace Failure

/-- The parameters as a failure has them: the element is seeded, and the given ones are written over
it. -/
def seeded (id : Identifier) (given : Parameters) : Parameters :=
  Table.overlay [(Parameter.field, .text id.text)] given

/-- What has been seeded may be seeded again. -/
theorem seeded_seeded (id : Identifier) (given : Parameters) :
    seeded id (seeded id given) = seeded id given :=
  Table.overlay_singleton_of_prefix
    (Table.nodup_keys_overlay (t := [(Parameter.field, Value.text id.text)])
      (List.nodup_singleton Parameter.field) given)
    (Table.keys_prefix_overlay [(Parameter.field, Value.text id.text)] given)

/-- The failure made anew from what it holds: created with its own parameters, and then given its
other attributes. -/
def remade (f : Failure) : Except Fault Failure :=
  (create (some f.identifier) (some f.code) f.parameters).map fun g => { g with
    severity := f.severity
    category := f.category
    group := f.group
    blocking := f.blocking
    time := f.time
    source := f.source
    additionalCode := f.additionalCode }

/-- **A failure made anew is the same** if it was seeded before. -/
theorem remade_of_seeded {f : Failure} {given : Parameters} (hcode : f.code ≠ "")
    (h : f.parameters = seeded f.identifier given) : f.remade = .ok f := by
  have hagain : Table.overlay [(Parameter.field, .text f.identifier.text)] f.parameters =
      f.parameters := by
    rw [h]
    exact seeded_seeded f.identifier given
  rw [remade, create]
  simp only [if_neg hcode, Except.map, hagain]

/-! ## Updates -/

/-- An update that callers can ask for. -/
inductive Update where
  | parameter (name : String) (value : Value)
  | severity (s : Severity)
  | category (text : Option String)
  | group (text : Option String)
  | blocking (value : Option Bool)
  | source (component : Option String)
  | additionalCode (code : Option String)

namespace Update

/-- The failure after the update. -/
def apply (f : Failure) : Update → Except Fault Failure
  | parameter name value => .ok (f.withParameter name value)
  | severity s => f.withSeverity (some (.level s))
  | category text => .ok (f.withCategory text)
  | group text => .ok (f.withGroup text)
  | blocking value => .ok (f.withBlocking value)
  | source component => .ok (f.withSource component)
  | additionalCode code => .ok (f.withAdditionalCode code)

/-- What the update writes among the parameters. -/
def writes : Update → Parameters
  | parameter name value => [(name, value)]
  | severity s => [(Parameter.severity, .text s.name)]
  | category (some text) => [(Parameter.category, .text text)]
  | _ => []

/-- The severity that the update puts on, if it does. -/
def severity? : Update → Option (Option SeverityLabel)
  | severity s => some (some (.level s))
  | _ => none

/-- The category that the update puts on, or nothing in its place, if it does. -/
def category? : Update → Option (Option String)
  | category text => some text
  | _ => none

/-- The group that the update puts on, or nothing in its place, if it does. -/
def group? : Update → Option (Option String)
  | group text => some text
  | _ => none

/-- What the update says of blocking, if it does. -/
def blocking? : Update → Option (Option Bool)
  | blocking value => some value
  | _ => none

/-- The component that the update puts on, or nothing in its place, if it does. -/
def source? : Update → Option (Option String)
  | source component => some component
  | _ => none

/-- The code of the caller's own that the update puts on, or nothing in its place, if it does. -/
def additionalCode? : Update → Option (Option String)
  | additionalCode code => some code
  | _ => none

/-- The last of what updates put on as an attribute, or what there is without them. -/
def lastOf {β : Type} (attribute? : Update → Option β) (updates : List Update) (given : β) : β :=
  (updates.filterMap attribute?).getLast?.getD given

theorem lastOf_cons {β : Type} (attribute? : Update → Option β) (u : Update) (rest : List Update)
    (given : β) :
    lastOf attribute? (u :: rest) given = lastOf attribute? rest (lastOf attribute? [u] given) := by
  rw [lastOf, lastOf, lastOf, List.filterMap_cons, List.filterMap_cons]
  rcases attribute? u with _ | b
  · rfl
  · rw [List.getLast?_cons]
    rfl

end Update

/-- The failure with what the updates write over its parameters, and the last of what they put on
as each other attribute. -/
def overlaid (f : Failure) (updates : List Update) : Failure :=
  { f with
    parameters := f.parameters.overlay (updates.flatMap Update.writes)
    severity := Update.lastOf Update.severity? updates f.severity
    category := Update.lastOf Update.category? updates f.category
    group := Update.lastOf Update.group? updates f.group
    blocking := Update.lastOf Update.blocking? updates f.blocking
    source := Update.lastOf Update.source? updates f.source
    additionalCode := Update.lastOf Update.additionalCode? updates f.additionalCode }

/-- One update overlays what it writes and puts on. -/
theorem apply_eq (f : Failure) (u : Update) : u.apply f = .ok (f.overlaid [u]) := by
  cases u with
  | category text => cases text <;> rfl
  | _ => rfl

theorem overlaid_cons (f : Failure) (u : Update) (rest : List Update) :
    f.overlaid (u :: rest) = (f.overlaid [u]).overlaid rest := by
  simp only [overlaid, List.flatMap_cons, List.flatMap_nil, List.append_nil, Table.overlay_append,
    Update.lastOf_cons _ u rest]

/-- **Updates overlay**: after any of them, in any order, a failure is the one that they overlay. -/
theorem foldlM_apply (f : Failure) (updates : List Update) :
    updates.foldlM Update.apply f = .ok (f.overlaid updates) := by
  induction updates generalizing f with
  | nil => rfl
  | cons u rest ih =>
    rw [List.foldlM_cons, apply_eq, overlaid_cons f u rest]
    exact ih _

/-- Making the failure anew after each update makes no difference. -/
theorem foldlM_remade {f : Failure} {given : Parameters} (hcode : f.code ≠ "")
    (h : f.parameters = seeded f.identifier given) (updates : List Update) :
    updates.foldlM (fun f u => u.apply f >>= remade) f = .ok (f.overlaid updates) := by
  induction updates generalizing f given with
  | nil => rfl
  | cons u rest ih =>
    have hseeded : (f.overlaid [u]).parameters =
        seeded (f.overlaid [u]).identifier (given ++ [u].flatMap Update.writes) := by
      rw [seeded, Table.overlay_append]
      exact congrArg (Table.overlay · _) h
    have hremade : u.apply f >>= remade = .ok (f.overlaid [u]) := by
      rw [apply_eq]
      exact remade_of_seeded hcode hseeded
    rw [List.foldlM_cons, hremade, overlaid_cons f u rest]
    exact ih hcode hseeded

/-- What was created has a code and has been seeded. -/
theorem seeded_of_create {identifier : Option Identifier} {code : Option String}
    {given : Parameters} {f : Failure} (h : create identifier code given = .ok f) :
    identifier = some f.identifier ∧ code = some f.code ∧ f.code ≠ "" ∧
      f.parameters = seeded f.identifier given := by
  obtain ⟨id, text, rfl, rfl, rfl, rfl, hparameters⟩ := create_eq_ok h
  refine ⟨rfl, rfl, fun hempty => ?_, hparameters⟩
  rw [create, if_pos hempty] at h
  cases h

/-- **What updates come to**: let a failure be created and given any other attributes, and updated
in any way. The updates succeed, also if each of them makes the failure anew. The failure keeps its
element, its code and its time. Its parameters are the seeded one, over which those of the caller
and then the writes of the updates are written one after the other; so what is read under a name is
the last that was written there, and under that of the element it is the element if nothing was. No
name that was there at any time is gone in the end. Each other attribute is the last that was put
on, or else what the caller gave. -/
theorem updates_overlay {identifier : Option Identifier} {code : Option String}
    {parameters : Parameters} {created : Failure}
    (h : create identifier code parameters = .ok created) (severity : Option SeverityLabel)
    (category group : Option String) (blocking : Option Bool) (time : Option Moment)
    (source additionalCode : Option String) (updates : List Update) :
    let f : Failure := { created with
      severity := severity
      category := category
      group := group
      blocking := blocking
      time := time
      source := source
      additionalCode := additionalCode }
    let writes : Parameters := parameters ++ updates.flatMap Update.writes
    ∃ g, updates.foldlM Update.apply f = .ok g ∧
      updates.foldlM (fun f u => u.apply f >>= remade) f = .ok g ∧
      identifier = some g.identifier ∧ code = some g.code ∧ g.time = time ∧
      g.parameters = Table.overlay [(Parameter.field, .text g.identifier.text)] writes ∧
      g.parameters.get? Parameter.field =
        some ((Table.last? Parameter.field writes).getD (.text g.identifier.text)) ∧
      (∀ name ≠ Parameter.field, g.parameters.get? name = Table.last? name writes) ∧
      (∀ before after, updates = before ++ after →
        ∃ m, before.foldlM Update.apply f = .ok m ∧ m.parameters.keys <+: g.parameters.keys) ∧
      g.severity = Update.lastOf Update.severity? updates severity ∧
      g.category = Update.lastOf Update.category? updates category ∧
      g.group = Update.lastOf Update.group? updates group ∧
      g.blocking = Update.lastOf Update.blocking? updates blocking ∧
      g.source = Update.lastOf Update.source? updates source ∧
      g.additionalCode = Update.lastOf Update.additionalCode? updates additionalCode := by
  intro f writes
  obtain ⟨hidentifier, hcode, hne, hseeded⟩ := seeded_of_create h
  have hparameters : (f.overlaid updates).parameters =
      Table.overlay [(Parameter.field, .text created.identifier.text)] writes := by
    rw [Table.overlay_append]
    exact congrArg (Table.overlay · _) hseeded
  refine ⟨f.overlaid updates, f.foldlM_apply updates, foldlM_remade (f := f) hne hseeded updates,
    hidentifier, hcode, rfl, hparameters, ?_, fun name hname => ?_, ?_, rfl, rfl, rfl, rfl, rfl,
    rfl⟩
  · rw [hparameters, Table.get?_overlay, Table.get?, if_pos rfl]
    cases Table.last? Parameter.field writes <;> rfl
  · rw [hparameters, Table.get?_overlay, Table.get?, if_neg hname.symm, Table.get?_nil,
      Option.or_none]
  · rintro before after rfl
    refine ⟨_, f.foldlM_apply before, ?_⟩
    simp only [overlaid, List.flatMap_append, Table.overlay_append]
    exact Table.keys_prefix_overlay _ _

/-- The caller overrides the element, and the updates put labels on and partly take them off again:
what they wrote among the parameters stays, but for what is written over it. -/
theorem updates_overlay_sampleUpdates :
    let id : Identifier := ⟨.field, "email"⟩
    let given : Parameters := [(Parameter.field, .text "E-mail"), (Parameter.min, .int 3)]
    let updates : List Update :=
      [.parameter Parameter.min (.int 4), .severity .warning, .category (some "profile"),
        .category none, .parameter Parameter.severity (.text "high"), .source (some "form")]
    ∃ created g, create (some id) (some "string.min_length") given = .ok created ∧
      updates.foldlM (fun f u => u.apply f >>= remade) created = .ok g ∧
      g.parameters.get? Parameter.field = some (.text "E-mail") ∧
      g.parameters.get? Parameter.min = some (.int 4) ∧
      g.parameters.get? Parameter.severity = some (.text "high") ∧
      g.parameters.get? Parameter.category = some (.text "profile") ∧
      g.severity = some (.level .warning) ∧ g.category = none ∧ g.source = some "form" := by
  intro id given updates
  have hcreate : ∃ created, create (some id) (some "string.min_length") given = .ok created :=
    ⟨_, rfl⟩
  obtain ⟨created, hcreated⟩ := hcreate
  obtain ⟨g, -, hanew, -, -, -, -, hfield, hothers, -, hseverity, hcategory, -, -, hsource, -⟩ :=
    updates_overlay hcreated created.severity created.category created.group created.blocking
      created.time created.source created.additionalCode updates
  exact ⟨created, g, hcreated, hanew, hfield, hothers _ (by decide), hothers _ (by decide),
    hothers _ (by decide), hseverity, hcategory, hsource⟩

end Failure

end Verdict
