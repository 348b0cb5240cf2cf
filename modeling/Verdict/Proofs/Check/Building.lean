import Verdict.Check.General
import Verdict.Proofs.Failure
import Verdict.Proofs.Message.Slots
import Verdict.Proofs.Result.Consistency
import Verdict.Proofs.Value.Order
import Verdict.Rule

/-!
# What building a check makes sure of

The arguments of a check are judged when it is built, and the contract of its shape is judged again
each time the check reports a failure. The two do not go the same way: some checks have their shape
judged, some judge an argument on their own, some only need to be built. `Check.Built` is what they
come to in any case: the shape keeps its contract, and what the template of the code asks for is a
parameter of the shape. Each family of checks has one lemma that says so of all that it builds, and
`Request.built_of_build` puts them together.

The contract does not ask for all that a report needs. A class may have no name to show, and a set
of values may hold an integer that cannot be written; `Request.obstacle?` is what stands in the way
then. A check without an obstacle is `Fit` and has a failure for every element
(`Built.exists_failure`). So what ends the run of a built-in check is the question about the value,
or the obstacle, and never the contract (`accepted_run`).
-/

namespace Verdict

/-! ## Requirements -/

theorem isNull_of_requireLimit {key : String} {limit : Value} {nonNegative : Bool} {u : Unit}
    (h : requireLimit key limit nonNegative = .ok u) : limit.isNull = false := by
  rw [requireLimit] at h
  by_cases hnull : limit.isNull = true
  · rw [if_pos hnull] at h
    cases h
  · exact Bool.eq_false_iff.mpr hnull

theorem isNull_of_requireRange {minimum maximum : Value} {nonNegative : Bool} {u : Unit}
    (h : requireRange minimum maximum nonNegative = .ok u) :
    minimum.isNull = false ∧ maximum.isNull = false := by
  rw [requireRange] at h
  by_cases hnull : (minimum.isNull || maximum.isNull) = true
  · rw [if_pos hnull] at h
    cases h
  · exact Bool.or_eq_false_iff.mp (Bool.eq_false_iff.mpr hnull)

theorem ne_nil_of_requireValues {values : Value} {items : List Value}
    (h : requireValues values = .ok items) : items ≠ [] := by
  rw [requireValues] at h
  by_cases hnull : values.isNull = true
  · rw [if_pos hnull] at h
    cases h
  rw [if_neg hnull] at h
  obtain ⟨parts, -, hparts⟩ := exists_of_bind_eq_ok h
  by_cases hempty : parts.isEmpty = true
  · rw [if_pos hempty] at hparts
    cases hparts
  · rw [if_neg hempty] at hparts
    obtain rfl := Except.ok.inj hparts
    rintro rfl
    exact hempty rfl

theorem parts?_of_requireValues {values : Value} {items : List Value}
    (h : requireValues values = .ok items) : values.parts? = .ok items := by
  rw [requireValues] at h
  by_cases hnull : values.isNull = true
  · rw [if_pos hnull] at h
    cases h
  rw [if_neg hnull] at h
  obtain ⟨parts, hparts, h⟩ := exists_of_bind_eq_ok h
  by_cases hempty : parts.isEmpty = true
  · rw [if_pos hempty] at h
    cases h
  · rw [if_neg hempty] at h
    rw [hparts, Except.ok.inj h]

/-! ## Obstacles -/

/-- What stands in the way of showing the name of a class: that it has none. -/
def nameObstacle? : Option String → Option Fault
  | none => some .missingMember
  | some _ => none

/-- What stands in the way of showing the parts of a value: that they cannot be written. -/
def valuesObstacle? (values : Value) : Option Fault :=
  match values.parts? with
  | .ok items => if Value.areWritable items then none else some .integerTooLong
  | .error _ => none

/-! ## Shapes -/

namespace Shape

/-- The names of the parameters of a shape. -/
def keys : Shape → List String
  | flag => []
  | bound key _ _ aliases => key :: aliases
  | bounds minKey _ maxKey _ _ => [minKey, maxKey]
  | reference key _ _ => [key]
  | className _ => [Parameter.className]
  | predicate _ => [Parameter.condition]
  | membership _ key => [key]

/-- The shape has its parameters. -/
def Sound (s : Shape) : Prop := ∃ p, s.parameters = .ok p

/-- What stands in the way of a report, whatever the contract says. -/
def obstacle? : Shape → Option Fault
  | className name => nameObstacle? name
  | membership values _ => valuesObstacle? values
  | _ => none

/-- The arguments keep the contract: the shape has its parameters, unless there is an obstacle. -/
def Kept (s : Shape) : Prop := ∃ p, s.parameters = s.obstacle?.elim (.ok p) .error

theorem Sound.kept {s : Shape} (h : s.Sound) (hclear : s.obstacle? = none) : s.Kept := by
  obtain ⟨p, hp⟩ := h
  exact ⟨p, by rw [hclear, hp]; rfl⟩

theorem sound_flag : flag.Sound := ⟨[], rfl⟩

theorem sound_reference {key : String} {value : Value} {allowNull : Bool}
    (h : value.isNull = true → allowNull = true) : (reference key value allowNull).Sound := by
  have hrequired : requireReference key value allowNull = .ok () := by
    rw [requireReference]
    by_cases hnull : value.isNull = true
    · rw [h hnull]
      exact if_neg (by simp)
    · exact if_neg (by simp [hnull])
  refine ⟨[(key, if value.isNull then .text "null" else value)], ?_⟩
  rw [parameters, hrequired]
  rfl

theorem kept_className (name : Option String) : (className name).Kept := by
  cases name with
  | none => exact ⟨[], rfl⟩
  | some name => exact ⟨[(Parameter.className, .text name)], rfl⟩

theorem kept_membership {items : List Value} (h : items ≠ []) (key : String) :
    (membership (.list items) key).Kept := by
  obtain ⟨item, rest, rfl⟩ := List.exists_cons_of_ne_nil h
  refine ⟨[(key, .text (", ".intercalate ((item :: rest).map (·.display))))], ?_⟩
  have hvalues : requireValues (.list (item :: rest)) = .ok (item :: rest) := rfl
  have hparts : (Value.list (item :: rest)).parts? = .ok (item :: rest) := rfl
  rw [parameters, obstacle?, hvalues, valuesObstacle?, hparts]
  cases hwritable : Value.areWritable (item :: rest) <;>
    simp [joinValues, Value.requireWritable, hwritable, bind, Except.bind, pure, Except.pure]

/-- Whatever the shape, its parameters are those under its keys, and have values. -/
theorem parameters_spec {s : Shape} {p : Parameters} (h : s.parameters = .ok p) :
    (∀ key ∈ s.keys, key ∈ p.keys) ∧ Parameters.Given p := by
  cases s with
  | flag =>
    obtain rfl := Except.ok.inj h
    exact ⟨fun _ hkey => hkey, Parameters.given_nil⟩
  | bound key limit nonNegative aliases =>
    obtain ⟨u, hlimit, hp⟩ := exists_of_bind_eq_ok h
    obtain rfl := Except.ok.inj hp
    rw [Table.foldl_set]
    refine ⟨fun name hname => Table.mem_keys_overlay.mpr (.inr ?_),
      Parameters.given_nil.overlay fun e he => ?_⟩
    · rw [Table.keys, List.map_map]
      exact List.mem_map.mpr ⟨name, hname, rfl⟩
    · obtain ⟨name, -, rfl⟩ := List.mem_map.mp he
      exact isNull_of_requireLimit hlimit
  | bounds minKey minimum maxKey maximum nonNegative =>
    obtain ⟨u, hrange, hp⟩ := exists_of_bind_eq_ok h
    obtain rfl := Except.ok.inj hp
    obtain ⟨hmin, hmax⟩ := isNull_of_requireRange hrange
    refine ⟨fun name hname => Table.mem_keys_set.mpr ?_,
      (Parameters.given_singleton hmin).set maxKey hmax⟩
    rcases List.mem_cons.mp hname with rfl | hname
    · exact .inl List.mem_cons_self
    · exact .inr (List.mem_singleton.mp hname)
  | reference key value allowNull =>
    obtain ⟨u, -, hp⟩ := exists_of_bind_eq_ok h
    obtain rfl := Except.ok.inj hp
    refine ⟨fun _ hname => hname, Parameters.given_singleton ?_⟩
    by_cases hnull : value.isNull = true
    · simp only [if_pos hnull]
      rfl
    · simp only [if_neg hnull]
      exact Bool.eq_false_iff.mpr hnull
  | className name =>
    obtain ⟨text, -, hp⟩ := exists_of_bind_eq_ok h
    obtain rfl := Except.ok.inj hp
    exact ⟨fun _ hname => hname, Parameters.given_singleton rfl⟩
  | predicate description =>
    obtain ⟨text, -, hp⟩ := exists_of_bind_eq_ok h
    obtain rfl := Except.ok.inj hp
    exact ⟨fun _ hname => hname, Parameters.given_singleton rfl⟩
  | membership values key =>
    obtain ⟨items, -, hp⟩ := exists_of_bind_eq_ok h
    obtain ⟨text, -, hp⟩ := exists_of_bind_eq_ok hp
    obtain rfl := Except.ok.inj hp
    exact ⟨fun _ hname => hname, Parameters.given_singleton rfl⟩

/-- Where nothing stands in the way, a shape is reported as its parameters say. -/
theorem failure_of_clear {s : Shape} (hclear : s.obstacle? = none) (id : Identifier)
    (code : Option String) : s.failure (some id) code =
      s.parameters >>= fun p => Failure.create (some id) code p := by
  have hprepare : s.prepare = .ok () := by
    cases s with
    | className name =>
      cases name with
      | none => cases hclear
      | some name => rfl
    | _ => rfl
  rw [failure, hprepare]
  rfl

/-- What stands in the way is what a report ends in. -/
theorem failure_of_obstacle {s : Shape} {fault : Fault} (h : s.Kept)
    (ho : s.obstacle? = some fault) (id : Identifier) (code : Option String) :
    s.failure (some id) code = .error fault := by
  obtain ⟨p, hp⟩ := h
  rw [ho, Option.elim_some] at hp
  cases s with
  | className name =>
    cases name with
    | none =>
      obtain rfl := Option.some.inj ho
      rfl
    | some name => cases ho
  | membership values key =>
    rw [failure]
    simp only [hp]
    rfl
  | _ => cases ho

end Shape

/-! ## Built checks -/

namespace Check

/-- The arguments of the check keep the contract, its failures have what their template asks for,
and this is what stands in their way, if anything. -/
structure Built (c : Check) (obstacle : Option Fault) : Prop where
  kept : c.shape.Kept
  slots : AsksOnly c.code.template (Parameter.field :: c.shape.keys)
  details : ∀ value, Parameters.Given (c.details value)
  obstacle?_eq : c.shape.obstacle? = obstacle

/-- The check can report what it finds. -/
structure Fit (c : Check) : Prop extends Built c none

theorem Built.fit {c : Check} {obstacle : Option Fault} (h : c.Built obstacle)
    (hclear : obstacle = none) : c.Fit := ⟨hclear ▸ h⟩

section Shapes

variable {code : Code} {shape : Shape} {skipsNull : Bool} {test : Predicate}
  {details : Value → Parameters} {c : Check}

theorem built_of_accept (h : accept ⟨code, shape, skipsNull, test, details⟩ = .ok c)
    (hclear : shape.obstacle? = none)
    (hslots : AsksOnly code.template (Parameter.field :: shape.keys))
    (hdetails : ∀ value, Parameters.Given (details value)) : c.Built none := by
  obtain ⟨u, hchecked, rfl⟩ := exists_of_map_eq_ok h
  obtain ⟨p, hp, -⟩ := exists_of_map_eq_ok hchecked
  exact ⟨Shape.Sound.kept ⟨p, hp⟩ hclear, hslots, hdetails, hclear⟩

theorem built_bound {key : String} {limit : Value} {nonNegative : Bool} {aliases : List String}
    (h : accept ⟨code, .bound key limit nonNegative aliases, skipsNull, test, fun _ => []⟩ = .ok c)
    (hslots : AsksOnly code.template (Parameter.field :: key :: aliases)) : c.Built none :=
  built_of_accept h rfl hslots fun _ => Parameters.given_nil

theorem built_bounds {minKey maxKey : String} {minimum maximum : Value} {nonNegative : Bool}
    (h : accept ⟨code, .bounds minKey minimum maxKey maximum nonNegative, skipsNull, test,
      details⟩ = .ok c)
    (hslots : AsksOnly code.template [Parameter.field, minKey, maxKey])
    (hdetails : ∀ value, Parameters.Given (details value)) : c.Built none :=
  built_of_accept h rfl hslots hdetails

theorem built_predicate {description : Option String}
    (h : accept ⟨code, .predicate description, skipsNull, test, fun _ => []⟩ = .ok c)
    (hslots : AsksOnly code.template [Parameter.field, Parameter.condition]) : c.Built none :=
  built_of_accept h rfl hslots fun _ => Parameters.given_nil

theorem built_flag (hslots : AsksOnly code.template [Parameter.field])
    (hdetails : ∀ value, Parameters.Given (details value)) :
    Built ⟨code, .flag, skipsNull, test, details⟩ none :=
  ⟨Shape.sound_flag.kept rfl, hslots, hdetails, rfl⟩

theorem built_reference {key : String} {value : Value} {allowNull : Bool}
    (h : value.isNull = true → allowNull = true)
    (hslots : AsksOnly code.template [Parameter.field, key]) :
    Built ⟨code, .reference key value allowNull, skipsNull, test, fun _ => []⟩ none :=
  ⟨(Shape.sound_reference h).kept rfl, hslots, fun _ => Parameters.given_nil, rfl⟩

/-- A value to compare with that was judged as a limit. -/
theorem built_of_requireLimit {key : String} {value : Value} {u : Unit}
    (h : requireLimit key value false = .ok u)
    (hslots : AsksOnly code.template [Parameter.field, key]) :
    Built ⟨code, .reference key value false, skipsNull, test, fun _ => []⟩ none := by
  refine built_reference (fun hnull => ?_) hslots
  cases hnull.symm.trans (isNull_of_requireLimit h)

theorem built_className {name : Option String}
    (hslots : AsksOnly code.template [Parameter.field, Parameter.className]) :
    Built ⟨code, .className name, skipsNull, test, fun _ => []⟩ (nameObstacle? name) :=
  ⟨Shape.kept_className name, hslots, fun _ => Parameters.given_nil, by cases name <;> rfl⟩

theorem built_membership {key : String} {values : Value} {items : List Value}
    (h : requireValues values = .ok items)
    (hslots : AsksOnly code.template [Parameter.field, key]) :
    Built ⟨code, .membership (.list items) key, skipsNull, test, fun _ => []⟩
      (valuesObstacle? values) where
  kept := Shape.kept_membership (ne_nil_of_requireValues h) key
  slots := hslots
  details _ := Parameters.given_nil
  obstacle?_eq := by rw [valuesObstacle?, parts?_of_requireValues h]; rfl

end Shapes

end Check

/-! ## The families

A template is asked for its slots where the check is built, since only there the names are known
that its shape has. -/

/-- What stands in the way of a failure. -/
def GeneralCheck.obstacle? : GeneralCheck → Option Fault
  | isInstanceOf (some cls) => nameObstacle? cls.name
  | oneOf values | noneOf values => valuesObstacle? values
  | _ => none

theorem GeneralCheck.built_of_build {g : GeneralCheck} {c : Check} (h : g.build = .ok c) :
    c.Built g.obstacle? := by
  cases g with
  | notNull | mustBeNull =>
    obtain rfl := Except.ok.inj h
    exact Check.built_flag (Code.asksOnly_template _) fun _ => Parameters.given_nil
  | isEqual value | isNotEqual value =>
    obtain rfl := Except.ok.inj h
    exact Check.built_reference (fun _ => rfl) (Code.asksOnly_template _)
  | satisfies condition description =>
    cases condition with
    | none => cases h
    | some condition => exact Check.built_predicate h (Code.asksOnly_template _)
  | isInstanceOf kind =>
    cases kind with
    | none => cases h
    | some kind =>
      obtain rfl := Except.ok.inj h
      exact Check.built_className (Code.asksOnly_template _)
  | oneOf values | noneOf values =>
    obtain ⟨items, hitems, hc⟩ := exists_of_bind_eq_ok h
    obtain rfl := Except.ok.inj hc
    exact Check.built_membership hitems (Code.asksOnly_template _)

/-- What stands in the way of a failure. -/
def TextCheck.obstacle? : TextCheck → Option Fault
  | oneOf allowed _ => valuesObstacle? allowed
  | _ => none

theorem TextCheck.built_of_build {t : TextCheck} {c : Check} (h : t.build = .ok c) :
    c.Built t.obstacle? := by
  cases t with
  | notBlank | numeric | alphanumeric =>
    obtain rfl := Except.ok.inj h
    exact Check.built_flag (Code.asksOnly_template _) fun _ => Parameters.given_nil
  | minLength limit | maxLength limit | exactLength limit =>
    exact Check.built_bound h (Code.asksOnly_template _)
  | matchesPattern source =>
    obtain ⟨p, -, hc⟩ := exists_of_bind_eq_ok h
    by_cases hblank : Text.strip p.source = ""
    · rw [if_pos hblank] at hc
      cases hc
    · rw [if_neg hblank] at hc
      obtain rfl := Except.ok.inj hc
      exact Check.built_reference (fun hnull => by cases hnull)
        (Code.asksOnly_template _)
  | oneOf allowed ignoreCase =>
    obtain ⟨items, hitems, hc⟩ := exists_of_bind_eq_ok h
    cases ignoreCase with
    | false =>
      obtain rfl := Except.ok.inj hc
      exact Check.built_membership hitems (Code.asksOnly_template _)
    | true =>
      obtain ⟨folded, -, hc⟩ := exists_of_bind_eq_ok hc
      obtain rfl := Except.ok.inj hc
      exact Check.built_membership hitems (Code.asksOnly_template _)
  | startsWith part | endsWith part | contains part =>
    obtain ⟨u, hlimit, hc⟩ := exists_of_bind_eq_ok h
    obtain rfl := Except.ok.inj hc
    exact Check.built_of_requireLimit hlimit (Code.asksOnly_template _)

theorem NumberCheck.built_of_build {n : NumberCheck} {c : Check} (h : n.build = .ok c) :
    c.Built none := by
  cases n with
  | minValue limit | maxValue limit =>
    exact Check.built_bound h (Code.asksOnly_template _)
  | inRange minimum maximum =>
    exact Check.built_bounds h (Code.asksOnly_template _) fun _ => Parameters.given_nil
  | positive | negative | notZero =>
    obtain rfl := Except.ok.inj h
    exact Check.built_flag (Code.asksOnly_template _) fun _ => Parameters.given_nil

/-- The size that was found, if there is one, is a number. -/
theorem given_actualSize (value : Value) : Parameters.Given (actualSize value) := by
  rw [actualSize]
  cases value.size? with
  | error fault => exact Parameters.given_nil
  | ok n => exact Parameters.given_singleton rfl

/-- What stands in the way of a failure. -/
def CollectionCheck.obstacle? : CollectionCheck → Option Fault
  | containsAll elements | containsNone elements => valuesObstacle? elements
  | _ => none

theorem CollectionCheck.built_of_build {k : CollectionCheck} {c : Check} (h : k.build = .ok c) :
    c.Built k.obstacle? := by
  cases k with
  | notEmpty | noDuplicates =>
    obtain rfl := Except.ok.inj h
    exact Check.built_flag (Code.asksOnly_template _) fun _ => Parameters.given_nil
  | minSize limit | maxSize limit =>
    exact Check.built_bound h (Code.asksOnly_template _)
  | sizeRange minimum maximum =>
    exact Check.built_bounds h (Code.asksOnly_template _) given_actualSize
  | allMatch condition description =>
    cases condition with
    | none => cases h
    | some condition => exact Check.built_predicate h (Code.asksOnly_template _)
  | containsElement element =>
    obtain rfl := Except.ok.inj h
    exact Check.built_reference (fun _ => rfl) (Code.asksOnly_template _)
  | containsAll values | containsNone values =>
    obtain ⟨items, hitems, hc⟩ := exists_of_bind_eq_ok h
    obtain rfl := Except.ok.inj hc
    exact Check.built_membership hitems (Code.asksOnly_template _)

theorem DateCheck.built_of_build {d : DateCheck} {c : Check} (h : d.build = .ok c) :
    c.Built none := by
  cases d with
  | before reference | after reference =>
    obtain ⟨u, hlimit, hc⟩ := exists_of_bind_eq_ok h
    obtain rfl := Except.ok.inj hc
    exact Check.built_of_requireLimit hlimit (Code.asksOnly_template _)
  | inRange minimum maximum =>
    exact Check.built_bounds h (Code.asksOnly_template _) fun _ => Parameters.given_nil
  | future clock | past clock =>
    obtain rfl := Except.ok.inj h
    exact Check.built_flag (Code.asksOnly_template _) fun _ => Parameters.given_nil
  | isWeekday | isWeekend =>
    obtain rfl := Except.ok.inj h
    exact Check.built_flag (Code.asksOnly_template _) fun _ =>
      Parameters.given_singleton rfl

/-- What stands in the way of a failure: a class without a name, or values that cannot be
written. -/
def Request.obstacle? : Request → Option Fault
  | general g => g.obstacle?
  | text t => t.obstacle?
  | number _ => none
  | collection k => k.obstacle?
  | date _ => none

/-- **What is built keeps the contract.** -/
theorem Request.built_of_build {request : Request} {c : Check} (h : request.build = .ok c) :
    c.Built request.obstacle? := by
  cases request with
  | general g => exact g.built_of_build h
  | text t => exact t.built_of_build h
  | number n => exact n.built_of_build h
  | collection k => exact k.built_of_build h
  | date d => exact d.built_of_build h

/-- What is built is fit, unless something stands in the way of its failures. -/
theorem Request.fit_of_build {request : Request} {c : Check} (h : request.build = .ok c)
    (hclear : request.obstacle? = none) : c.Fit := (built_of_build h).fit hclear

/-! ## Failures of built checks -/

namespace Check

variable {c : Check} {obstacle : Option Fault}

/-- The failure tells of an element what the check is about, and has what the template asks for. -/
structure Reports (c : Check) (id : Identifier) (f : Failure) : Prop where
  identifier : f.identifier = id
  code : f.code = c.code.text
  made : f.Made
  slots : AsksOnly c.code.template f.parameters.keys
  given : Parameters.Given f.parameters

/-- Where nothing stands in the way, the shape gives a failure for every element. -/
theorem Built.exists_shape_failure (h : c.Built none) (id : Identifier) :
    ∃ f, c.shape.failure (some id) (some c.code.text) = .ok f ∧ c.Reports id f := by
  obtain ⟨p, hp⟩ := h.kept
  rw [h.obstacle?_eq, Option.elim_none] at hp
  obtain ⟨hkeys, hgiven⟩ := Shape.parameters_spec hp
  have hcreate : ∃ f, Failure.create (some id) (some c.code.text) p = .ok f := by
    simp only [Failure.create, if_neg c.code.text_ne_empty]
    exact ⟨_, rfl⟩
  obtain ⟨f, hf⟩ := hcreate
  obtain ⟨id', text, hid, htext, rfl, rfl, hparameters⟩ := Failure.create_eq_ok hf
  refine ⟨f, ?_, (Option.some.inj hid).symm, (Option.some.inj htext).symm, .created hf,
    h.slots.mono fun key hkey => ?_, ?_⟩
  · rw [Shape.failure_of_clear h.obstacle?_eq, hp]
    exact hf
  · rw [hparameters, Table.mem_keys_overlay]
    rcases List.mem_cons.mp hkey with rfl | hkey
    · exact .inl List.mem_cons_self
    · exact .inr (hkeys key hkey)
  · rw [hparameters]
    exact (Parameters.given_singleton rfl).overlay hgiven

/-- A shape that keeps the contract gives a failure for every element, or there is an obstacle. -/
theorem Built.shape_failure_eq_error_iff (h : c.Built obstacle) (id : Identifier) {fault : Fault} :
    c.shape.failure (some id) (some c.code.text) = .error fault ↔ obstacle = some fault := by
  cases obstacle with
  | none =>
    obtain ⟨f, hf, -⟩ := h.exists_shape_failure id
    rw [hf]
    exact iff_of_false (fun h => nomatch h) fun h => nomatch h
  | some other =>
    rw [Shape.failure_of_obstacle h.kept h.obstacle?_eq, Except.error.injEq, Option.some.injEq]

/-- The failure of a check is that of its shape, with the details written over the parameters. -/
theorem failure_eq (c : Check) (value : Value) (id : Option Identifier) :
    c.failure value id = (c.shape.failure id (some c.code.text)).map fun f =>
      { f with parameters := f.parameters.overlay (c.details value) } := by
  rw [failure]
  congr 1
  funext f
  exact f.foldl_withParameter _

/-- A fit check has a failure for every refused value and every element. -/
theorem Built.exists_failure (h : c.Built none) (value : Value) (id : Identifier) :
    ∃ f, c.failure value (some id) = .ok f ∧ c.Reports id f := by
  obtain ⟨f, hf, hreports⟩ := h.exists_shape_failure id
  have hfailure : c.failure value (some id) =
      .ok { f with parameters := f.parameters.overlay (c.details value) } := by
    rw [failure_eq, hf, Except.map]
  have hmade := hreports.made.withParameters (c.details value)
  rw [Failure.foldl_withParameter] at hmade
  refine ⟨_, hfailure, hreports.identifier, hreports.code, hmade,
    hreports.slots.mono fun key hkey => ?_, hreports.given.overlay (h.details value)⟩
  exact Table.mem_keys_overlay.mpr (.inl hkey)

/-- What stands in the way is what the failure of a built check ends in. -/
theorem Built.failure_of_obstacle {fault : Fault} (h : c.Built (some fault)) (value : Value)
    (id : Identifier) : c.failure value (some id) = .error fault := by
  rw [failure_eq, (h.shape_failure_eq_error_iff id).mpr rfl]
  rfl

/-- A built check has a failure for every refused value and every element, or an obstacle. -/
theorem Built.failure_cases (h : c.Built obstacle) (value : Value) (id : Identifier) :
    (∃ f, c.failure value (some id) = .ok f ∧ c.Reports id f) ∨
      ∃ fault, obstacle = some fault ∧ c.failure value (some id) = .error fault := by
  cases obstacle with
  | none => exact .inl (h.exists_failure value id)
  | some fault => exact .inr ⟨fault, rfl, h.failure_of_obstacle value id⟩

/-- What a check says of a value: nothing passes without being asked about, where it may. -/
def answer (c : Check) (value : Value) : Except Fault Bool :=
  if c.skipsNull && value.isNull then .ok true else c.test value

/-- A check judges as it answers, and asks for a failure only if the value is refused. -/
theorem judge_eq (c : Check) (value : Value) (identifier : Option Identifier) :
    c.judge value identifier = (c.answer value).bind fun passes =>
      if passes then .ok none else (c.failure value identifier).map some := by
  rw [judge, answer]
  by_cases hskip : (c.skipsNull && value.isNull) = true
  · rw [if_pos hskip, if_pos hskip]
    rfl
  rw [if_neg hskip, if_neg hskip]
  generalize c.failure value identifier = report
  rcases c.test value with fault | _ | _
  · rfl
  · cases report <;> rfl
  · rfl

/-- A value that is refused ends the run if there is an obstacle. -/
theorem Built.run_of_obstacle {ν : Type} {fault : Fault} {value : Value}
    (h : c.Built (some fault)) (hrefused : c.answer value = .ok false) (id : Identifier)
    (r : Result) : (Rule.check c : Rule ν).run value (some id) r = .stopped r fault := by
  simp only [Rule.run, judge_eq, hrefused, h.failure_of_obstacle value id]
  rfl

/-- **Arguments that are accepted keep the contract for good**: once a check is built, all that its
shape can end in is the obstacle that its arguments have, if they have one. So a run of it, on any
value, element and result, either ends in the fault of the question about the value and leaves the
result as it was, or adds nothing if the value passes, or adds one failure, of that element and
under a code of the catalog. If there is an obstacle, the run ends in it instead and leaves the
result as it was. -/
theorem accepted_run {ν : Type} {request : Request} {c : Check} (h : request.build = .ok c)
    (value : Value) (id : Identifier) (r : Result) :
    let o : Outcome ν := (Rule.check c).run value (some id) r
    (∀ element fault, c.shape.failure (some element) (some c.code.text) = .error fault ↔
      request.obstacle? = some fault) ∧
      (∀ fault, c.answer value = .error fault → o = .stopped r fault) ∧
      (c.answer value = .ok true → o = .done r) ∧
      (c.answer value = .ok false → request.obstacle? = none →
        ∃ f, o = .done (r.add f) ∧ o.result.failures = r.failures ++ [f] ∧ f.identifier = id ∧
          Code.isKnown f.code = true) ∧
      ∀ fault, c.answer value = .ok false → request.obstacle? = some fault →
        o = .stopped r fault := by
  intro o
  have hbuilt : c.Built request.obstacle? := Request.built_of_build h
  refine ⟨fun element fault => hbuilt.shape_failure_eq_error_iff element, fun fault hfault => ?_,
    fun hpass => ?_, fun hrefused hclear => ?_, fun fault hrefused hobstacle => ?_⟩
  · simp only [o, Rule.run, judge_eq, hfault]
    rfl
  · simp only [o, Rule.run, judge_eq, hpass]
    rfl
  · obtain ⟨f, hf, hreports⟩ := (hclear ▸ hbuilt).exists_failure value id
    have hrun : o = .done (r.add f) := by
      simp only [o, Rule.run, judge_eq, hrefused, hf]
      rfl
    refine ⟨f, hrun, ?_, hreports.identifier, ?_⟩
    · rw [hrun]
      exact r.failures_add f
    · rw [hreports.code]
      exact c.code.isKnown_text
  · exact (hobstacle ▸ hbuilt).run_of_obstacle hrefused id r

/-- A list is to have one or two parts. -/
def sampleSizes : Check :=
  ⟨.sizeRange, .bounds Parameter.minSize (.int 1) Parameter.maxSize (.int 2) true, true,
    fun v => do Value.within (.int 1) (.int 2) (← v.sizeValue?), actualSize⟩

/-- The size is asked of a list that is too long, of nothing, and of a number, which has none. -/
theorem accepted_run_sampleSizes :
    let id : Identifier := ⟨.path, "items"⟩
    let run (value : Value) : Outcome Unit := (Rule.check sampleSizes).run value (some id) .empty
    (Request.collection (.sizeRange (.int 1) (.int 2))).build = .ok sampleSizes ∧
      (∃ f, run (.list [.null, .null, .null]) = .done (Result.empty.add f) ∧
        f.identifier = id ∧ Code.isKnown f.code = true) ∧
      run .null = .done .empty ∧ run (.int 5) = .stopped .empty .unsupported := by
  intro id run
  have hrange : requireRange (.int 1) (.int 2) true = .ok () := by
    simp only [requireRange, eitherNegative, Value.related_int]
    rfl
  have hbuild : (Request.collection (.sizeRange (.int 1) (.int 2))).build = .ok sampleSizes := by
    simp only [Request.build, CollectionCheck.build, Check.accept, Shape.check, Shape.parameters,
      hrange]
    rfl
  have hthree : Value.within (.int 1) (.int 2) (.int 3) = .ok false := by
    rw [Value.within_of_related (Value.related_int ..) (Value.related_int ..)]
    rfl
  have hlong : sampleSizes.answer (.list [.null, .null, .null]) = .ok false := by
    simp [Check.answer, sampleSizes, Value.isNull, Value.sizeValue?, Value.size?, Except.map,
      bind, Except.bind, pure, Except.pure, hthree]
  refine ⟨hbuild, ?_, ?_, ?_⟩
  · obtain ⟨-, -, -, hrefused, -⟩ :=
      accepted_run (ν := Unit) hbuild (.list [.null, .null, .null]) id .empty
    obtain ⟨f, hrun, -, hid, hknown⟩ := hrefused hlong rfl
    exact ⟨f, hrun, hid, hknown⟩
  · obtain ⟨-, -, hpass, -⟩ := accepted_run (ν := Unit) hbuild .null id .empty
    exact hpass rfl
  · obtain ⟨-, hfault, -⟩ := accepted_run (ν := Unit) hbuild (.int 5) id .empty
    exact hfault .unsupported rfl

/-- An integer of one digit more than can be written is accepted as the only value to choose from,
and so is a union of classes as the class to be of. A value that either check refuses ends its run,
with no failure reported. -/
theorem accepted_unreported :
    let id : Identifier := ⟨.field, "age"⟩
    let chosen : Request := .general (.oneOf (.list [.int (.ofNat (Nat.pow 10 4300))]))
    let either : Request :=
      .general (.isInstanceOf (some (.union ValueClass.builtin[0] ValueClass.builtin[1])))
    (∃ c, chosen.build = .ok c ∧ c.answer (.int 5) = .ok false ∧
      (Rule.check c : Rule Unit).run (.int 5) (some id) .empty = .stopped .empty .integerTooLong) ∧
    ∃ c, either.build = .ok c ∧ c.answer (.list []) = .ok false ∧
      (Rule.check c : Rule Unit).run (.list []) (some id) .empty =
        .stopped .empty .missingMember := by
  intro id chosen either
  have hlong : chosen.obstacle? = some .integerTooLong := by decide +kernel
  constructor
  · obtain ⟨c, hbuild, hrefused⟩ : ∃ c, chosen.build = .ok c ∧ c.answer (.int 5) = .ok false :=
      ⟨_, rfl, by decide +kernel⟩
    have hbuilt := hlong ▸ Request.built_of_build hbuild
    exact ⟨c, hbuild, hrefused, hbuilt.run_of_obstacle hrefused id _⟩
  · obtain ⟨c, hbuild, hrefused⟩ : ∃ c, either.build = .ok c ∧ c.answer (.list []) = .ok false :=
      ⟨_, rfl, rfl⟩
    have hbuilt : c.Built (some .missingMember) := Request.built_of_build hbuild
    exact ⟨c, hbuild, hrefused, hbuilt.run_of_obstacle hrefused id _⟩

end Check

end Verdict
