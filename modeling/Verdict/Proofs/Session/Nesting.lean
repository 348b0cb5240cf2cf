import Verdict.Proofs.Session.Silence

/-!
# What short-circuiting reaches

A selection asks its validator each time, so whatever short-circuits the validator silences the
selection too, made before or after. A validator nested in a selection asks only once, when it is
made. Short-circuiting therefore reaches down from a member to selections of any depth as far as
the nested validators on the way are made after it (`mute_beneath`), and past no nested validator
that was there before (`nested_before_not_reached`).

Validators are numbered as they are made, so those made after a point of a run are those whose
number is at least the number of validators at that point. `Beneath` says which members are
reached with such validators alone. The step from one session to the next needs that `Beneath` only
looks at the members above one, and these were there before it (`Beneath.of_extends`).
-/

namespace Verdict.Session

variable {ν : Type} {s t : Session}

/-- The members that one comes to from a member by selecting properties, where nested validators
have to have at least a given number. -/
inductive Beneath (s : Session) (first : Nat) (top : Member) : Member → Prop where
  | top : Beneath s first top top
  /-- A property of a validator, whenever it was selected. -/
  | selection {v p : Nat} {selection : Selection} (h : Beneath s first top (.validator v))
    (hsel : s.selections[p]? = some selection) (hparent : selection.parent = v) :
    Beneath s first top (.selection p)
  /-- A validator nested in a selection, if it was made late enough. -/
  | nested {p v : Nat} {validator : Validator} (h : Beneath s first top (.selection p))
    (hval : s.validators[v]? = some validator) (howner : validator.owner = some p)
    (hfirst : first ≤ v) : Beneath s first top (.validator v)

/-- The member is one of the session. -/
def Has (s : Session) : Member → Prop
  | .validator v => v < s.validators.length
  | .selection p => p < s.selections.length

/-- What is beneath a member after some calls, and was there before them, was beneath it before
them. -/
theorem Beneath.of_extends (hs : s.Linked) (h : s.Extends t) {first : Nat} {top m : Member}
    (hm : t.Beneath first top m) (hhas : s.Has m) : s.Beneath first top m := by
  induction hm with
  | top => exact .top
  | @selection v p selection _ hsel hparent ih =>
    obtain ⟨old, hold⟩ : ∃ old, s.selections[p]? = some old := ⟨_, List.getElem?_eq_getElem hhas⟩
    obtain ⟨new, hnew, hlink, -⟩ := h.selections p old hold
    obtain rfl := Option.some.inj (hsel.symm.trans hnew)
    have hparent' : old.parent = v := by rw [← hparent, hlink]
    have hv : v < s.validators.length := hparent' ▸ hs.parent p old hold
    exact .selection (ih hv) hold hparent'
  | @nested p v validator _ hval howner hfirst ih =>
    obtain ⟨old, hold⟩ : ∃ old, s.validators[v]? = some old := ⟨_, List.getElem?_eq_getElem hhas⟩
    obtain ⟨new, hnew, hlink, -⟩ := h.validators v old hold
    obtain rfl := Option.some.inj (hval.symm.trans hnew)
    have howner' : old.owner = some p := by rw [← howner, hlink]
    exact .nested (ih (hs.owner v old p hold howner')) hold howner' hfirst

/-- Whatever is beneath a member, with nested validators from the given number on, is
short-circuited. -/
def Reached (s : Session) (first : Nat) (top : Member) : Prop :=
  ∀ m, s.Beneath first top m → s.isShortCircuited m = true

/-- At the point from which validators count as late, a short-circuited member reaches its own
selections. -/
theorem reached_of_isShortCircuited {top : Member} (h : s.isShortCircuited top = true) :
    s.Reached s.validators.length top := by
  intro m hm
  induction hm with
  | top => exact h
  | selection _ hsel hparent ih =>
    rw [Session.isShortCircuited, isSilent_of_getElem? hsel, hparent]
    exact Bool.or_eq_true_iff.mpr (.inr ih)
  | nested _ hval _ hfirst =>
    exact absurd (List.getElem?_eq_some_iff.mp hval).1 (Nat.not_lt.mpr hfirst)

/-- A nested validator starts with the state of its selection. -/
theorem Change.takes_over {c : Call ν} {logs : List LogEvent} (h : Change s c t logs) {v p : Nat}
    {validator : Validator} (hnew : s.validators.length ≤ v)
    (hval : t.validators[v]? = some validator) (howner : validator.owner = some p) :
    s.Has (.selection p) ∧ validator.short = s.isSilent p := by
  have hnone : s.validators[v]? = none := List.getElem?_eq_none hnew
  cases h with
  | still hv | selected _ _ _ _ hv | silenced _ _ _ _ hv =>
    rw [hv, hnone] at hval
    cases hval
  | opened _ _ hnoOwner hv =>
    rw [hv] at hval
    rcases getElem?_concat_cases hval with hold | ⟨-, rfl⟩
    · cases hnone.symm.trans hold
    · cases hnoOwner.symm.trans howner
  | nested q _ _ _ hlt howner' hshort _ _ hv =>
    rw [hv] at hval
    rcases getElem?_concat_cases hval with hold | ⟨-, rfl⟩
    · cases hnone.symm.trans hold
    · obtain rfl := Option.some.inj (howner'.symm.trans howner)
      exact ⟨hlt, hshort⟩
  | tripped _ _ _ _ _ hold hv =>
    rw [hv] at hval
    rcases getElem?_set_cases hval with hsame | ⟨rfl, -⟩
    · cases hnone.symm.trans hsame
    · cases hnone.symm.trans hold

/-- Every call keeps it, since a validator that is nested by the call takes over the state of a
selection that was reached before. -/
theorem Change.keeps_reached {c : Call ν} {logs : List LogEvent} (h : Change s c t logs)
    (hs : s.Linked) {first : Nat} {top : Member} (hreached : s.Reached first top) :
    t.Reached first top := by
  intro m hm
  induction hm with
  | top => exact h.extends.isShortCircuited (hreached top .top)
  | selection _ hsel hparent ih =>
    rw [Session.isShortCircuited, isSilent_of_getElem? hsel, hparent]
    exact Bool.or_eq_true_iff.mpr (.inr ih)
  | @nested p v validator hp hval howner hfirst =>
    by_cases hold : v < s.validators.length
    · have hbeneath := (Beneath.nested hp hval howner hfirst).of_extends hs h.extends hold
      exact h.extends.isShortCircuited (hreached _ hbeneath)
    · obtain ⟨hhas, hshort⟩ := h.takes_over (Nat.not_lt.mp hold) hval howner
      have hsilent : s.isSilent p = true := hreached _ (hp.of_extends hs h.extends hhas)
      rw [Session.isShortCircuited, isShort_of_getElem? hval, hshort, hsilent]

theorem reached_follow (hs : s.Linked) {first : Nat} {top : Member} (h : s.Reached first top)
    (calls : List (Call ν)) : (s.follow calls).Reached first top := by
  -- the links have to be carried along
  have hstep (t : Session) (c : Call ν) (ht : t.Linked ∧ t.Reached first top) :
      (t.act c).session.Linked ∧ (t.act c).session.Reached first top :=
    ⟨(t.act_change c).linked ht.1, (t.act_change c).keeps_reached ht.1 ht.2⟩
  exact (follow_induction hstep ⟨hs, h⟩ calls).2

/-- **Short-circuiting reaches down**: once a member is short-circuited, at any point of any run, a
selection that one comes to from it is silent, and mute, at any later point, if the validators
nested on the way were made after it was short-circuited. -/
theorem mute_beneath (calls later : List (Call ν)) {top : Member}
    (htop : (after calls).isShortCircuited top = true) {p : Nat}
    (hp : ((after calls).follow later).Beneath (after calls).validators.length top
      (.selection p)) :
    ((after calls).follow later).isShortCircuited (.selection p) = true ∧
      ((after calls).follow later).Mute ν p := by
  have hreached := reached_follow (linked_after calls) (reached_of_isShortCircuited htop) later
  have hsilent := hreached _ hp
  exact ⟨hsilent, mute_of_isSilent hsilent⟩

/-! ## A run with nested validators -/

/-- A validator, a property of it, and a property of that. -/
def sampleNesting : List (Call Unit) :=
  [.openFresh (.text "user") false,
    .select 0 (some (.ofField "address")) (.given (.text "home")),
    .selectWithin 0 (some (.ofPath "address.city")) fun value => .ok value]

/-- The validator is short-circuited. -/
def sampleTrip : Call Unit := .shortCircuitIf 0 fun _ => .ok true

/-- A property of the same property is selected then, and one of that. -/
def sampleDeeper : List (Call Unit) :=
  [.selectWithin 0 (some (.ofPath "address.street")) fun value => .ok value,
    .selectWithin 2 (some (.ofPath "address.street.name")) fun value => .ok value]

theorem mute_beneath_sampleDeeper :
    let s := after (sampleNesting ++ [sampleTrip])
    let t := s.follow sampleDeeper
    s.isShortCircuited (.validator 0) = true ∧ s.validators.length = 2 ∧
      t.Beneath 2 (.validator 0) (.selection 3) ∧ t.isSilent 3 = true ∧ t.Mute Unit 3 := by
  intro s t
  have htop : s.isShortCircuited (.validator 0) = true := rfl
  have hp : t.Beneath 2 (.validator 0) (.selection 3) := by
    refine .selection (v := 3) (.nested (p := 2) (.selection (v := 2) (.nested (p := 0)
      (.selection (v := 0) .top rfl rfl) rfl rfl ?_) rfl rfl) rfl rfl ?_) rfl rfl
    · exact Nat.le_refl 2
    · exact Nat.le_succ 2
  obtain ⟨hsilent, hmute⟩ := mute_beneath (sampleNesting ++ [sampleTrip]) sampleDeeper htop hp
  exact ⟨htop, rfl, hp, hsilent, hmute⟩

/-- A failure of the inner property. -/
def sampleCityFailure : Failure := .sample .path "city"

/-- The inner property that was selected before the validator is short-circuited is not silent
after: a rule that is applied to it is run, and adds to the result. -/
theorem nested_before_not_reached :
    let s := after (sampleNesting ++ [sampleTrip])
    s.isShortCircuited (.validator 0) = true ∧ s.Beneath 0 (.validator 0) (.selection 1) ∧
      s.isSilent 1 = false ∧ (s.resultOf 0).map (·.failures) = some [] ∧
      ((s.apply 1 .always (.fail sampleCityFailure : Rule Unit)).session.resultOf 0).map
        (·.failures) = some [sampleCityFailure] := by
  intro s
  have hp : s.Beneath 0 (.validator 0) (.selection 1) :=
    .selection (v := 1) (.nested (p := 0) (.selection (v := 0) .top rfl rfl) rfl rfl
      (Nat.zero_le 1)) rfl rfl
  exact ⟨rfl, hp, rfl, rfl, rfl⟩

end Verdict.Session
