import Verdict.Proofs.Session.Growth

/-!
# Going down and back up

Properties are selected one within the other: a property of a validator, a property of that, and so
on. Each time but the first a validator is nested in between, so the way back from the last property
is longer than the way down.

A `Path` is such a chain of members with its number of links. Going down is a `descend`, where other
calls may be made before each property is selected. `descend_folds` says where it leads: to the fold
of the extractors over the target, in which nothing absorbs. The invariant is that the member
reached is at the end of a path (`Path.select`, `Path.selectWithin`), and every call keeps paths and
values, since links and values never change (`Path.of_extends`). The way back follows the links
(`Path.backBy`).
-/

namespace Verdict.Session

variable {ν : Type} {s t : Session}

/-! ## Values -/

/-- The value that extractors lead to, one after the other. Of nothing there are no properties, so
no further extractor is asked then. -/
def valueAlong : Value → List (Value → Except Fault Value) → Except Fault Value
  | v, [] => .ok v
  | v, extract :: rest =>
    if v.isNull then .ok .null
    else
      match extract v with
      | .ok w => valueAlong w rest
      | .error fault => .error fault

theorem valueAlong_null (extracts : List (Value → Except Fault Value)) :
    valueAlong .null extracts = .ok .null := by
  cases extracts <;> rfl

/-- The value of a property, and then those along the rest of the way. -/
theorem valueAlong_cons (v : Value) (extract : Value → Except Fault Value)
    (rest : List (Value → Except Fault Value)) :
    valueAlong v (extract :: rest) =
      (valueFrom v (.read extract)).bind fun w => valueAlong w rest := by
  rw [valueAlong, valueFrom]
  by_cases hnull : v.isNull = true
  · rw [if_pos hnull, if_pos hnull]
    exact (valueAlong_null rest).symm
  · rw [if_neg hnull, if_neg hnull]
    cases extract v <;> rfl

theorem valueAlong_append (v : Value) (before later : List (Value → Except Fault Value)) :
    valueAlong v (before ++ later) =
      (valueAlong v before).bind fun w => valueAlong w later := by
  induction before generalizing v with
  | nil => rfl
  | cons extract rest ih =>
    rw [List.cons_append, valueAlong_cons, valueAlong_cons]
    cases valueFrom v (.read extract) with
    | error fault => rfl
    | ok w => exact ih w

/-- **It is a left fold**, in which nothing absorbs. -/
theorem valueAlong_eq_foldlM (v : Value) (extracts : List (Value → Except Fault Value)) :
    valueAlong v extracts =
      extracts.foldlM (fun w extract => if w.isNull then .ok .null else extract w) v := by
  induction extracts generalizing v with
  | nil => rfl
  | cons extract rest ih =>
    rw [valueAlong_cons, List.foldlM_cons, ← funext ih]
    rfl

/-- A fault comes from an extractor, and that was asked for a property of something. -/
theorem exists_of_valueAlong_eq_error {v : Value} {extracts : List (Value → Except Fault Value)}
    {fault : Fault} (h : valueAlong v extracts = .error fault) : ∃ before extract later w,
      extracts = before ++ extract :: later ∧ valueAlong v before = .ok w ∧ w.isNull = false ∧
        extract w = .error fault := by
  induction extracts generalizing v with
  | nil => cases h
  | cons extract rest ih =>
    rw [valueAlong] at h
    by_cases hnull : v.isNull = true
    · rw [if_pos hnull] at h
      cases h
    rw [if_neg hnull] at h
    rcases hw : extract v with other | w
    · rw [hw] at h
      exact ⟨[], extract, rest, v, rfl, rfl, Bool.eq_false_iff.mpr hnull, hw.trans h⟩
    · rw [hw] at h
      obtain ⟨before, last, later, x, rfl, hbefore, hx, hfault⟩ := ih h
      refine ⟨extract :: before, last, later, x, rfl, ?_, hx, hfault⟩
      rw [valueAlong, if_neg hnull, hw]
      exact hbefore

/-- The object of a validator, or the value of a selection. -/
def valueOf (s : Session) : Member → Option Value
  | .validator v => s.validators[v]?.map (·.target)
  | .selection p => s.selections[p]?.map (·.value)

theorem Extends.valueOf (h : s.Extends t) {m : Member} {x : Value}
    (hx : s.valueOf m = some x) : t.valueOf m = some x := by
  cases m with
  | validator v =>
    obtain ⟨validator, hval, rfl⟩ := Option.map_eq_some_iff.mp hx
    obtain ⟨after, hafter, hsame, -⟩ := h.validators v validator hval
    exact Option.map_eq_some_iff.mpr ⟨after, hafter, by rw [hsame]⟩
  | selection p =>
    obtain ⟨selection, hsel, rfl⟩ := Option.map_eq_some_iff.mp hx
    obtain ⟨after, hafter, hsame, -⟩ := h.selections p selection hsel
    exact Option.map_eq_some_iff.mpr ⟨after, hafter, by rw [hsame]⟩

/-! ## Paths -/

/-- A member at a number of links below a validator, where all validators on the way report into one
result. -/
inductive Path (s : Session) (top result : Nat) : Nat → Member → Prop where
  | top {validator : Validator} (hval : s.validators[top]? = some validator)
    (hresult : validator.result = result) : Path s top result 0 (.validator top)
  | selection {links v p : Nat} {selection : Selection} (h : Path s top result links (.validator v))
    (hsel : s.selections[p]? = some selection) (hparent : selection.parent = v) :
    Path s top result (links + 1) (.selection p)
  | nested {links p v : Nat} {validator : Validator} (h : Path s top result links (.selection p))
    (hval : s.validators[v]? = some validator) (howner : validator.owner = some p)
    (hresult : validator.result = result) (hne : v ≠ top) :
    Path s top result (links + 1) (.validator v)

namespace Path

variable {top result links : Nat} {m : Member}

/-- Links and results stay. -/
theorem of_extends (h : s.Path top result links m) (ht : s.Extends t) :
    t.Path top result links m := by
  induction h with
  | top hval hresult =>
    obtain ⟨after, hafter, hsame, -⟩ := ht.validators _ _ hval
    exact .top hafter (by rw [hsame, hresult])
  | selection _ hsel hparent ih =>
    obtain ⟨after, hafter, hsame, -⟩ := ht.selections _ _ hsel
    exact .selection ih hafter (by rw [hsame, hparent])
  | nested _ hval howner hresult hne ih =>
    obtain ⟨after, hafter, hsame, -⟩ := ht.validators _ _ hval
    exact .nested ih hafter (by rw [hsame, howner]) (by rw [hsame, hresult]) hne

theorem exists_validator {v : Nat} (h : s.Path top result links (.validator v)) :
    ∃ validator, s.validators[v]? = some validator ∧ validator.result = result := by
  cases h with
  | top hval hresult => exact ⟨_, hval, hresult⟩
  | nested _ hval _ hresult _ => exact ⟨_, hval, hresult⟩

/-- A selection on the way is one of a validator on the way. -/
theorem exists_parent {p : Nat} {selection : Selection} (h : s.Path top result links (.selection p))
    (hsel : s.selections[p]? = some selection) :
    ∃ validator, s.validators[selection.parent]? = some validator ∧ validator.result = result := by
  cases h with
  | selection h hsame hparent =>
    obtain rfl := Option.some.inj (hsel.symm.trans hsame)
    rw [hparent]
    exact h.exists_validator

theorem top_lt (h : s.Path top result links m) : top < s.validators.length := by
  induction h with
  | top hval _ => exact (List.getElem?_eq_some_iff.mp hval).1
  | selection _ _ _ ih => exact ih
  | nested _ _ _ _ _ ih => exact ih

theorem eq_top (h : s.Path top result 0 m) : m = .validator top := by
  cases h
  rfl

theorem ne_top (h : s.Path top result (links + 1) m) : m ≠ .validator top := by
  cases h with
  | selection => exact Member.noConfusion
  | nested _ _ _ _ hne => exact fun heq => hne (Member.validator.inj heq)

end Path

/-! ## The way back -/

/-- Where the end of a member leads: from a selection to its validator, and from a validator to the
selection that it is nested in, which there has to be. -/
def back (s : Session) : Member → Except Fault Member
  | .validator v => (s.ownerOf v).map .selection
  | .selection p => (s.parentOf p).map .validator

/-- Where a number of ends lead. -/
def backBy (s : Session) : Nat → Member → Except Fault Member
  | 0, m => .ok m
  | k + 1, m => (s.back m).bind (s.backBy k)

theorem Path.back {top result links : Nat} {m : Member}
    (h : s.Path top result (links + 1) m) :
    ∃ m', s.back m = .ok m' ∧ s.Path top result links m' := by
  cases h with
  | selection h hsel hparent =>
    refine ⟨_, ?_, h⟩
    rw [Session.back, parentOf, hsel, ← hparent]
    rfl
  | nested h hval howner _ _ =>
    refine ⟨_, ?_, h⟩
    rw [Session.back, ownerOf, hval]
    simp only [howner]
    rfl

/-- **The way back**: an end leads up by one link. -/
theorem Path.backBy {top result links k : Nat} {m : Member}
    (h : s.Path top result (links + k) m) :
    ∃ m', s.backBy k m = .ok m' ∧ s.Path top result links m' := by
  induction k generalizing m with
  | zero => exact ⟨m, rfl, h⟩
  | succ k ih =>
    obtain ⟨m', hback, hm'⟩ := Path.back h
    obtain ⟨m'', hmore, hm''⟩ := ih hm'
    exact ⟨m'', by rw [Session.backBy, hback]; exact hmore, hm''⟩

theorem backBy_add (k l : Nat) (m : Member) :
    s.backBy (k + l) m = (s.backBy k m).bind (s.backBy l) := by
  induction k generalizing m with
  | zero => rw [Nat.zero_add]; rfl
  | succ k ih =>
    rw [Nat.succ_add, backBy, backBy]
    cases s.back m with
    | error fault => rfl
    | ok m' => exact ih m'

/-- No end leads up from a validator that is nested in nothing. -/
theorem back_of_owner_eq_none {v : Nat} {validator : Validator}
    (hval : s.validators[v]? = some validator) (howner : validator.owner = none) :
    s.back (.validator v) = .error .topLevel := by
  rw [back, ownerOf, hval]
  simp only [howner]
  rfl

/-! ## The way down -/

/-- Selects a property of a member. -/
def selectFrom (s : Session) (m : Member) (identifier : Option Identifier)
    (extract : Value → Except Fault Value) : Turn ν Nat :=
  match m with
  | .validator v => s.select v identifier (.read extract)
  | .selection p => s.selectWithin p identifier extract

/-- A property on the way down, with the calls that are made before it is selected. -/
structure Leg (ν : Type) where
  meanwhile : List (Call ν)
  identifier : Option Identifier
  extract : Value → Except Fault Value

/-- The session after properties have been selected one within the other, and where they lead or the
fault that ended the way. -/
def descend (s : Session) (m : Member) : List (Leg ν) → Session × Except Fault Member
  | [] => (s, .ok m)
  | leg :: rest =>
    let turn : Turn ν Nat := (s.follow leg.meanwhile).selectFrom m leg.identifier leg.extract
    match turn.answer with
    | .error fault => (turn.session, .error fault)
    | .ok p => descend turn.session (.selection p) rest

theorem extends_selectFrom (s : Session) (m : Member) (identifier : Option Identifier)
    (extract : Value → Except Fault Value) :
    s.Extends (s.selectFrom m identifier extract : Turn ν Nat).session := by
  cases m with
  | validator v => exact extends_act s (.select v identifier (.read extract) : Call ν)
  | selection p => exact extends_act s (.selectWithin p identifier extract : Call ν)

theorem extends_descend (s : Session) (m : Member) (legs : List (Leg ν)) :
    s.Extends (s.descend m legs).1 := by
  induction legs generalizing s m with
  | nil => exact .refl s
  | cons leg rest ih =>
    have hstep := (s.extends_follow leg.meanwhile).trans
      ((s.follow leg.meanwhile).extends_selectFrom (ν := ν) m leg.identifier leg.extract)
    rw [descend]
    split
    · exact hstep
    · exact hstep.trans (ih _ _)

/-- What is expected of a way down that leads to a value: a property at the end of a path that has
it. A fault on the way is all that is left of it. -/
def Arrives (reached : Session × Except Fault Member) (top result links : Nat) :
    Except Fault Value → Prop
  | .error fault => reached.2 = .error fault
  | .ok x => ∃ p, reached.2 = .ok (.selection p) ∧
      reached.1.Path top result links (.selection p) ∧ reached.1.valueOf (.selection p) = some x

/-- Where a turn has led that selects a property. -/
def reachedBy (turn : Turn ν Nat) : Session × Except Fault Member :=
  (turn.session, turn.answer.map .selection)

section Steps

variable {top result links : Nat} {x : Value}

theorem Path.select {v : Nat} (h : s.Path top result links (.validator v))
    (hx : s.valueOf (.validator v) = some x) (identifier : Option Identifier)
    (extract : Value → Except Fault Value) :
    let turn : Turn ν Nat := s.select v identifier (.read extract)
    Arrives (reachedBy turn) top result (links + 1) (valueFrom x (.read extract)) := by
  intro turn
  have hext : s.Extends turn.session :=
    extends_act s (.select v identifier (.read extract) : Call ν)
  obtain ⟨validator, hval, rfl⟩ := Option.map_eq_some_iff.mp hx
  have hturn : turn = s.select v identifier (.read extract) := rfl
  rw [Session.select] at hturn
  simp only [hval] at hturn
  cases hvalue : valueFrom validator.target (.read extract) with
  | error fault =>
    rw [hvalue] at hturn
    rw [hturn]
    rfl
  | ok y =>
    rw [hvalue] at hturn
    have hsel : turn.session.selections[s.selections.length]? = some ⟨v, identifier, y, false⟩ := by
      rw [hturn]
      exact List.getElem?_concat_length
    refine ⟨s.selections.length, by rw [hturn]; rfl, .selection (h.of_extends hext) hsel rfl, ?_⟩
    exact Option.map_eq_some_iff.mpr ⟨_, hsel, rfl⟩

theorem Path.selectWithin {p : Nat} (h : s.Path top result links (.selection p))
    (hx : s.valueOf (.selection p) = some x) (identifier : Option Identifier)
    (extract : Value → Except Fault Value) :
    let turn : Turn ν Nat := s.selectWithin p identifier extract
    Arrives (reachedBy turn) top result (links + 2) (valueFrom x (.read extract)) := by
  intro turn
  have hext : s.Extends turn.session := extends_act s (.selectWithin p identifier extract : Call ν)
  obtain ⟨selection, hsel, rfl⟩ := Option.map_eq_some_iff.mp hx
  obtain ⟨validator, hval, hresult⟩ := h.exists_parent hsel
  have hturn : turn = s.selectWithin p identifier extract := rfl
  rw [Session.selectWithin] at hturn
  simp only [hsel, hval, addValidator, Session.select, List.getElem?_concat_length] at hturn
  cases hvalue : valueFrom selection.value (.read extract) with
  | error fault =>
    rw [hvalue] at hturn
    rw [hturn]
    rfl
  | ok y =>
    rw [hvalue] at hturn
    have hnested : turn.session.validators[s.validators.length]? =
        some ⟨selection.value, validator.result, s.isSilent p, some p⟩ := by
      rw [hturn]
      exact List.getElem?_concat_length
    have hinner : turn.session.selections[s.selections.length]? =
        some ⟨s.validators.length, identifier, y, false⟩ := by
      rw [hturn]
      exact List.getElem?_concat_length
    -- the top was there before
    have hne : s.validators.length ≠ top := (Nat.ne_of_lt h.top_lt).symm
    refine ⟨s.selections.length, by rw [hturn]; rfl,
      .selection (.nested (h.of_extends hext) hnested rfl hresult hne) hinner rfl, ?_⟩
    exact Option.map_eq_some_iff.mpr ⟨_, hinner, rfl⟩

/-- **One more property**: the path gets longer by one link, or by two where a validator is nested
for the property. -/
theorem arrives_descend_cons {m : Member} {links' : Nat} {leg : Leg ν} {rest : List (Leg ν)}
    (hstep : Arrives
      (reachedBy ((s.follow leg.meanwhile).selectFrom m leg.identifier leg.extract : Turn ν Nat))
      top result links (valueFrom x (.read leg.extract)))
    (hrest : ∀ {t : Session} {p : Nat} {y : Value}, t.Path top result links (.selection p) →
      t.valueOf (.selection p) = some y → Arrives (t.descend (.selection p) rest) top result links'
        (valueAlong y (rest.map (·.extract)))) :
    Arrives (s.descend m (leg :: rest)) top result links'
      (valueAlong x ((leg :: rest).map (·.extract))) := by
  rw [List.map_cons, valueAlong_cons, descend]
  generalize ((s.follow leg.meanwhile).selectFrom m leg.identifier leg.extract : Turn ν Nat) = turn
    at hstep ⊢
  cases hvalue : valueFrom x (.read leg.extract) with
  | error fault =>
    rw [hvalue] at hstep
    cases hanswer : turn.answer with
    | error other =>
      obtain rfl : other = fault := by simpa [Arrives, reachedBy, hanswer, Except.map] using hstep
      rfl
    | ok p => simp [Arrives, reachedBy, hanswer, Except.map] at hstep
  | ok y =>
    rw [hvalue] at hstep
    obtain ⟨p, hp, hpath, hvalue⟩ := hstep
    cases hanswer : turn.answer with
    | error other => simp [reachedBy, hanswer, Except.map] at hp
    | ok q =>
      obtain rfl : q = p := by simpa [reachedBy, hanswer, Except.map] using hp
      exact hrest hpath hvalue

theorem Path.descend_selection {p : Nat} (h : s.Path top result links (.selection p))
    (hx : s.valueOf (.selection p) = some x) (legs : List (Leg ν)) :
    Arrives (s.descend (.selection p) legs) top result (links + 2 * legs.length)
      (valueAlong x (legs.map (·.extract))) := by
  induction legs generalizing s p x links with
  | nil => exact ⟨p, rfl, h, hx⟩
  | cons leg rest ih =>
    have hext := s.extends_follow leg.meanwhile
    refine arrives_descend_cons ((h.of_extends hext).selectWithin (hext.valueOf hx) _ _) ?_
    intro t q y hq hy
    rw [List.length_cons, Nat.mul_succ, ← Nat.add_assoc, Nat.add_right_comm]
    exact ih hq hy

/-- From a validator, the first property is one link away. -/
theorem Path.descend_validator {v : Nat} (h : s.Path top result links (.validator v))
    (hx : s.valueOf (.validator v) = some x) (leg : Leg ν) (rest : List (Leg ν)) :
    Arrives (s.descend (.validator v) (leg :: rest)) top result (links + 1 + 2 * rest.length)
      (valueAlong x ((leg :: rest).map (·.extract))) := by
  have hext := s.extends_follow leg.meanwhile
  refine arrives_descend_cons ((h.of_extends hext).select (hext.valueOf hx) _ _) ?_
  intro t p y hp hy
  exact hp.descend_selection hy rest

end Steps

/-! ## Down and back up -/

/-- A property below a validator, with its value and the way back, where so many properties have
been selected one within the other. -/
structure Below (t : Session) (v : Nat) (root : Validator) (depth p : Nat) (x : Value) : Prop where
  value : t.valueOf (.selection p) = some x
  /-- The validators on the way report into the result of the validator. -/
  result : ∀ k w, k < 2 * depth → t.backBy k (.selection p) = .ok (.validator w) →
    ∃ validator, t.validators[w]? = some validator ∧ validator.result = root.result
  /-- Fewer ends do not lead back to the validator. -/
  short : ∀ k < 2 * depth - 1, ∃ m, t.backBy k (.selection p) = .ok m ∧ m ≠ .validator v
  home : t.backBy (2 * depth - 1) (.selection p) = .ok (.validator v)
  /-- One more end, where the validator is nested in nothing. -/
  beyond : root.owner = none →
    ∃ fault, t.backBy (2 * depth) (.selection p) = .error fault ∧ fault.family = .state

theorem Path.below_root {v depth p : Nat} {root : Validator} {x : Value}
    (h : s.Path v root.result (2 * depth - 1) (.selection p)) (hdepth : 0 < depth)
    (hroot : ∃ after, s.validators[v]? = some after ∧ after.owner = root.owner)
    (hx : s.valueOf (.selection p) = some x) : s.Below v root depth p x := by
  have hhome : s.backBy (2 * depth - 1) (.selection p) = .ok (.validator v) := by
    have hup : s.Path v root.result (0 + (2 * depth - 1)) (.selection p) := by rwa [Nat.zero_add]
    obtain ⟨m, hm, hpath⟩ := hup.backBy
    rw [hm, hpath.eq_top]
  refine ⟨hx, ?_, ?_, hhome, ?_⟩
  · intro k w hk hw
    have hup : s.Path v root.result (2 * depth - 1 - k + k) (.selection p) := by
      rwa [Nat.sub_add_cancel (by omega)]
    obtain ⟨m, hm, hpath⟩ := hup.backBy
    obtain rfl := Except.ok.inj (hm.symm.trans hw)
    exact hpath.exists_validator
  · intro k hk
    have hup : s.Path v root.result (2 * depth - 2 - k + 1 + k) (.selection p) := by
      rwa [show 2 * depth - 2 - k + 1 + k = 2 * depth - 1 by omega]
    obtain ⟨m, hm, hpath⟩ := hup.backBy
    exact ⟨m, hm, hpath.ne_top⟩
  · intro howner
    obtain ⟨after, hafter, hsame⟩ := hroot
    refine ⟨.topLevel, ?_, rfl⟩
    rw [show 2 * depth = 2 * depth - 1 + 1 by omega, backBy_add, hhome]
    exact congrArg (·.bind (s.backBy 0)) (back_of_owner_eq_none hafter (hsame.trans howner))

/-- **Going down folds, with nothing absorbing**: where properties are selected one within the
other, from a validator and with any calls in between, the last has the value of the left fold of
the extractors over the target. From the first nothing on, the extractors make no difference. A
fault is that of an extractor, asked for a property of something. All validators on the way report
into the result of the first, and the way back to it takes two ends for each property but one for
the first; this holds at any later point of the run. -/
theorem descend_folds {v : Nat} {root : Validator} (hroot : s.validators[v]? = some root)
    {legs : List (Leg ν)} (hlegs : legs ≠ []) :
    let along (part : List (Leg ν)) := valueAlong root.target (part.map (·.extract))
    let reached := s.descend (.validator v) legs
    (along legs = (legs.map (·.extract)).foldlM
        (fun x extract => if x.isNull then .ok .null else extract x) root.target ∧
      ∀ before rest, legs = before ++ rest → along before = .ok .null → along legs = .ok .null) ∧
    (∀ x, along legs = .ok x → ∃ p, reached.2 = .ok (.selection p) ∧
      ∀ later : List (Call ν), (reached.1.follow later).Below v root legs.length p x) ∧
    (∀ fault, reached.2 = .error fault ↔ along legs = .error fault) ∧
    ∀ fault, reached.2 = .error fault → ∃ before leg rest x, legs = before ++ leg :: rest ∧
      along before = .ok x ∧ x.isNull = false ∧ leg.extract x = .error fault := by
  intro along reached
  have harrives : Arrives reached v root.result (2 * legs.length - 1) (along legs) := by
    have htop : s.Path v root.result 0 (.validator v) := .top hroot rfl
    have hvalue : s.valueOf (.validator v) = some root.target :=
      Option.map_eq_some_iff.mpr ⟨root, hroot, rfl⟩
    cases legs with
    | nil => exact absurd rfl hlegs
    | cons leg rest =>
      have h := htop.descend_validator hvalue leg rest
      rwa [show 0 + 1 + 2 * rest.length = 2 * (leg :: rest).length - 1 by
        rw [List.length_cons]; omega] at h
  have herror : ∀ fault, reached.2 = .error fault ↔ along legs = .error fault := by
    intro fault
    cases hvalue : along legs with
    | error other =>
      rw [hvalue] at harrives
      rw [show reached.2 = .error other from harrives, Except.error.injEq, Except.error.injEq]
    | ok x =>
      rw [hvalue] at harrives
      obtain ⟨p, hp, -⟩ := harrives
      rw [hp]
      exact iff_of_false nofun nofun
  refine ⟨⟨valueAlong_eq_foldlM _ _, ?_⟩, ?_, herror, ?_⟩
  · rintro before rest rfl hnull
    show valueAlong _ _ = _
    rw [List.map_append, valueAlong_append, show valueAlong _ (before.map _) = _ from hnull]
    exact valueAlong_null _
  · intro x hx
    rw [hx] at harrives
    obtain ⟨p, hp, hpath, hvalue⟩ := harrives
    refine ⟨p, hp, fun later => ?_⟩
    have hext := reached.1.extends_follow later
    obtain ⟨after, hafter, hsame, -⟩ :=
      ((s.extends_descend (.validator v) legs).trans hext).validators v root hroot
    exact (hpath.of_extends hext).below_root (List.length_pos_iff.mpr hlegs)
      ⟨after, hafter, by rw [hsame]⟩ (hext.valueOf hvalue)
  · intro fault hfault
    obtain ⟨before, extract, rest, x, hsplit, hbefore, hx, hextract⟩ :=
      exists_of_valueAlong_eq_error ((herror fault).mp hfault)
    obtain ⟨front, back, rfl, rfl, hback⟩ := List.map_eq_append_iff.mp hsplit
    obtain ⟨leg, tail, rfl, rfl, -⟩ := List.map_eq_cons_iff.mp hback
    exact ⟨front, leg, tail, x, rfl, hbefore, hx, hextract⟩

/-- A property of a property that is not there, selected after the validator is short-circuited. Its
extractor has only a fault to give. -/
def sampleLegs : List (Leg Unit) :=
  [⟨[], some (.ofField "address"), fun _ => .ok (.text "home")⟩,
    ⟨[.shortCircuitIf 0 fun _ => .ok true], some (.ofPath "address.city"), fun _ => .ok .null⟩,
    ⟨[], some (.ofPath "address.city.name"), fun _ => .error .missingMember⟩]

theorem descend_folds_sampleLegs :
    let root : Validator := ⟨.text "user", 0, false, none⟩
    let s := after [(.openFresh root.target false : Call Unit)]
    let reached := s.descend (.validator 0) sampleLegs
    s.validators[0]? = some root ∧ sampleLegs ≠ [] ∧ reached.2 = .ok (.selection 2) ∧
      reached.1.Below 0 root 3 2 .null := by
  intro root s reached
  have hroot : s.validators[0]? = some root := rfl
  have hlegs : sampleLegs ≠ [] := List.cons_ne_nil _ _
  obtain ⟨-, hfound, -, -⟩ := descend_folds hroot hlegs
  obtain ⟨p, hp, hbelow⟩ := hfound .null rfl
  have hreached : reached.2 = .ok (.selection 2) := by decide +kernel
  obtain rfl : 2 = p := Member.selection.inj (Except.ok.inj (hreached.symm.trans hp))
  have hnow := hbelow []
  rw [follow_nil] at hnow
  exact ⟨hroot, hlegs, hp, hnow⟩

end Verdict.Session
