import Verdict.Proofs.Session.Change

/-!
# How sessions grow

Validators and selections are never lost, and keep their numbers and their links; the one thing
about them that changes is whether they are short-circuited, and that only ever from no to yes.
`Extends` says so of two sessions. It holds for a call (`extends_act`), hence for a run
(`extends_follow`), and what is short-circuited before is so after
(`Extends.isShortCircuited`).

Links lead to members that were there before: `Linked` is the invariant.
-/

namespace Verdict

/-- A validator may come to be short-circuited; else it stays what it is. -/
def Validator.Becomes (x y : Validator) : Prop :=
  y = { x with short := y.short } ∧ (x.short = true → y.short = true)

/-- A selection may come to be silenced; else it stays what it is. -/
def Selection.Becomes (x y : Selection) : Prop :=
  y = { x with short := y.short } ∧ (x.short = true → y.short = true)

theorem Validator.Becomes.refl (x : Validator) : x.Becomes x := ⟨rfl, id⟩

theorem Validator.Becomes.trans {x y z : Validator} (h : x.Becomes y) (h' : y.Becomes z) :
    x.Becomes z := by
  refine ⟨?_, fun hx => h'.2 (h.2 hx)⟩
  rw [h'.1, h.1]

theorem Selection.Becomes.refl (x : Selection) : x.Becomes x := ⟨rfl, id⟩

theorem Selection.Becomes.trans {x y z : Selection} (h : x.Becomes y) (h' : y.Becomes z) :
    x.Becomes z := by
  refine ⟨?_, fun hx => h'.2 (h.2 hx)⟩
  rw [h'.1, h.1]

/-- Every entry of one list stands at its place in another, or what it may become. -/
def Keeps {α : Type} (becomes : α → α → Prop) (l l' : List α) : Prop :=
  ∀ (i : Nat) x, l[i]? = some x → ∃ y, l'[i]? = some y ∧ becomes x y

namespace Keeps

variable {α : Type} {becomes : α → α → Prop} {l l' l'' : List α}

theorem refl (h : ∀ x, becomes x x) (l : List α) : Keeps becomes l l := fun _ x hx => ⟨x, hx, h x⟩

theorem trans (h : ∀ {x y z}, becomes x y → becomes y z → becomes x z) (hl : Keeps becomes l l')
    (hl' : Keeps becomes l' l'') : Keeps becomes l l'' := by
  intro i x hx
  obtain ⟨y, hy, hxy⟩ := hl i x hx
  obtain ⟨z, hz, hyz⟩ := hl' i y hy
  exact ⟨z, hz, h hxy hyz⟩

theorem append (h : ∀ x, becomes x x) (l more : List α) : Keeps becomes l (l ++ more) := by
  intro i x hx
  have hlt : i < l.length := (List.getElem?_eq_some_iff.mp hx).1
  exact ⟨x, (List.getElem?_append_left hlt).trans hx, h x⟩

theorem set (h : ∀ x, becomes x x) {i : Nat} {x y : α} (hx : l[i]? = some x)
    (hxy : becomes x y) : Keeps becomes l (l.set i y) := by
  intro j z hz
  by_cases hij : i = j
  · subst hij
    obtain rfl := Option.some.inj (hx.symm.trans hz)
    exact ⟨y, List.getElem?_set_self (List.getElem?_eq_some_iff.mp hx).1, hxy⟩
  · exact ⟨z, (List.getElem?_set_ne hij).trans hz, h z⟩

theorem length_le (h : Keeps becomes l l') : l.length ≤ l'.length := by
  rcases hl : l.length with _ | n
  · exact Nat.zero_le _
  · obtain ⟨y, hy, -⟩ := h n l[n] (List.getElem?_eq_getElem (by omega))
    exact (List.getElem?_eq_some_iff.mp hy).1

end Keeps

/-- What stands in a list with one more entry is that entry or stood there before. -/
theorem getElem?_concat_cases {α : Type} {l : List α} {a x : α} {i : Nat}
    (h : (l ++ [a])[i]? = some x) : l[i]? = some x ∨ i = l.length ∧ x = a := by
  rw [List.getElem?_append] at h
  by_cases hlt : i < l.length
  · rw [if_pos hlt] at h
    exact .inl h
  · rw [if_neg hlt] at h
    obtain ⟨hi, rfl⟩ := List.getElem?_eq_some_iff.mp h
    rw [List.length_singleton] at hi
    exact .inr ⟨by omega, List.getElem_singleton ..⟩

/-- What stands in a list with one entry changed is the new entry or stood there before. -/
theorem getElem?_set_cases {α : Type} {l : List α} {a x : α} {i j : Nat}
    (h : (l.set i a)[j]? = some x) : l[j]? = some x ∨ j = i ∧ x = a := by
  by_cases hij : i = j
  · subst hij
    rw [List.getElem?_set_self (by simpa using (List.getElem?_eq_some_iff.mp h).1)] at h
    exact .inr ⟨rfl, (Option.some.inj h).symm⟩
  · rw [List.getElem?_set_ne hij] at h
    exact .inl h

namespace Session

variable {ν : Type} {s t u : Session}

/-! ## Reports -/

theorem isShort_of_getElem? {v : Nat} {validator : Validator}
    (h : s.validators[v]? = some validator) : s.isShort v = validator.short := by
  rw [isShort, h]

theorem isSilent_of_getElem? {p : Nat} {selection : Selection}
    (h : s.selections[p]? = some selection) :
    s.isSilent p = (selection.short || s.isShort selection.parent) := by
  rw [isSilent, h]

theorem exists_of_isShort {v : Nat} (h : s.isShort v = true) :
    ∃ validator, s.validators[v]? = some validator ∧ validator.short = true := by
  rw [isShort] at h
  rcases hval : s.validators[v]? with _ | validator
  · rw [hval] at h
    cases h
  · rw [hval] at h
    exact ⟨validator, rfl, h⟩

theorem exists_of_isSilent {p : Nat} (h : s.isSilent p = true) :
    ∃ selection, s.selections[p]? = some selection ∧
      (selection.short = true ∨ s.isShort selection.parent = true) := by
  rw [isSilent] at h
  rcases hsel : s.selections[p]? with _ | selection
  · rw [hsel] at h
    cases h
  · rw [hsel] at h
    exact ⟨selection, rfl, Bool.or_eq_true_iff.mp h⟩

/-! ## Extension -/

/-- The members of one session are those of another by then, perhaps with more. -/
structure Extends (s t : Session) : Prop where
  validators : Keeps Validator.Becomes s.validators t.validators
  selections : Keeps Selection.Becomes s.selections t.selections

theorem Extends.trans (h : s.Extends t) (h' : t.Extends u) : s.Extends u :=
  ⟨h.validators.trans .trans h'.validators, h.selections.trans .trans h'.selections⟩

theorem Extends.refl (s : Session) : s.Extends s := ⟨.refl .refl _, .refl .refl _⟩

theorem Change.extends {c : Call ν} {logs : List LogEvent} (h : Change s c t logs) :
    s.Extends t := by
  cases h with
  | still hv hp =>
    constructor
    · rw [hv]
      exact .refl .refl _
    · rw [hp]
      exact .refl .refl _
  | opened validator _ _ hv hp =>
    constructor
    · rw [hv]
      exact .append .refl _ _
    · rw [hp]
      exact .refl .refl _
  | selected selection _ _ _ hv hp =>
    constructor
    · rw [hv]
      exact .refl .refl _
    · rw [hp]
      exact .append .refl _ _
  | nested p validator selection _ _ _ _ _ _ hv hp =>
    constructor
    · rw [hv]
      exact .append .refl _ _
    · rw [hp]
      exact .append .refl _ _
  | tripped v validator _ _ _ hval hv hp =>
    constructor
    · rw [hv]
      exact .set .refl hval ⟨rfl, fun _ => rfl⟩
    · rw [hp]
      exact .refl .refl _
  | silenced p selection _ hsel hv hp =>
    constructor
    · rw [hv]
      exact .refl .refl _
    · rw [hp]
      exact .set .refl hsel ⟨rfl, fun _ => rfl⟩

theorem extends_act (s : Session) (c : Call ν) : s.Extends (s.act c).session :=
  (act_change s c).extends

theorem extends_follow (s : Session) (calls : List (Call ν)) : s.Extends (s.follow calls) :=
  follow_induction (fun t c h => h.trans (t.extends_act c)) (.refl s) calls

theorem Extends.isShort (h : s.Extends t) {v : Nat} (hs : s.isShort v = true) :
    t.isShort v = true := by
  obtain ⟨validator, hval, hshort⟩ := exists_of_isShort hs
  obtain ⟨validator', hval', -, hkept⟩ := h.validators v validator hval
  rw [isShort_of_getElem? hval']
  exact hkept hshort

/-- What is short-circuited stays so. -/
theorem Extends.isShortCircuited (h : s.Extends t) {m : Member}
    (hs : s.isShortCircuited m = true) : t.isShortCircuited m = true := by
  cases m with
  | validator v => exact h.isShort hs
  | selection p =>
    obtain ⟨selection, hsel, hshort⟩ := exists_of_isSilent hs
    obtain ⟨selection', hsel', hlink, hkept⟩ := h.selections p selection hsel
    have hparent : selection'.parent = selection.parent := by rw [hlink]
    rw [Session.isShortCircuited, isSilent_of_getElem? hsel', hparent, Bool.or_eq_true_iff]
    exact hshort.imp hkept h.isShort

/-! ## Links -/

/-- Every link leads to a member of the session. -/
structure Linked (s : Session) : Prop where
  parent : ∀ (p : Nat) (selection : Selection), s.selections[p]? = some selection →
    selection.parent < s.validators.length
  owner : ∀ (v : Nat) (validator : Validator) (p : Nat), s.validators[v]? = some validator →
    validator.owner = some p → p < s.selections.length

theorem linked_empty : empty.Linked where
  parent _ _ h := by cases h
  owner _ _ _ h := by cases h

theorem Change.linked {c : Call ν} {logs : List LogEvent} (h : Change s c t logs)
    (hs : s.Linked) : t.Linked := by
  have hvalidators : s.validators.length ≤ t.validators.length := h.extends.validators.length_le
  have hselections : s.selections.length ≤ t.selections.length := h.extends.selections.length_le
  have hparent : ∀ (p : Nat) (selection : Selection), s.selections[p]? = some selection →
      selection.parent < t.validators.length :=
    fun p selection hsel => Nat.lt_of_lt_of_le (hs.parent p selection hsel) hvalidators
  have howner : ∀ (v : Nat) (validator : Validator) (p : Nat), s.validators[v]? = some validator →
      validator.owner = some p → p < t.selections.length :=
    fun v validator p hval ho => Nat.lt_of_lt_of_le (hs.owner v validator p hval ho) hselections
  -- what is not new is linked as before, so only new entries are looked at
  constructor
  · intro p selection hsel
    cases h with
    | still _ hp | opened _ _ _ _ hp | tripped _ _ _ _ _ _ _ hp =>
      rw [hp] at hsel
      exact hparent p selection hsel
    | selected _ _ hnew _ hv hp =>
      rw [hp] at hsel
      rcases getElem?_concat_cases hsel with hold | ⟨-, rfl⟩
      · exact hparent p selection hold
      · exact Nat.lt_of_lt_of_le hnew hvalidators
    | nested _ _ _ _ _ _ _ hnew _ hv hp =>
      rw [hp] at hsel
      rcases getElem?_concat_cases hsel with hold | ⟨-, rfl⟩
      · exact hparent p selection hold
      · rw [hnew, hv, List.length_append]
        exact Nat.lt_succ_self _
    | silenced q old _ hold hv hp =>
      rw [hp] at hsel
      rcases getElem?_set_cases hsel with hsame | ⟨-, rfl⟩
      · exact hparent p selection hsame
      · exact hparent q old hold
  · intro v validator p hval ho
    cases h with
    | still hv | selected _ _ _ _ hv | silenced _ _ _ _ hv =>
      rw [hv] at hval
      exact howner v validator p hval ho
    | opened _ _ hnew hv =>
      rw [hv] at hval
      rcases getElem?_concat_cases hval with hold | ⟨-, rfl⟩
      · exact howner v validator p hold ho
      · cases hnew.symm.trans ho
    | nested q _ _ _ hlt hnew _ _ _ hv =>
      rw [hv] at hval
      rcases getElem?_concat_cases hval with hold | ⟨-, rfl⟩
      · exact howner v validator p hold ho
      · obtain rfl := Option.some.inj (hnew.symm.trans ho)
        exact Nat.lt_of_lt_of_le hlt hselections
    | tripped w old _ _ _ hold hv =>
      rw [hv] at hval
      rcases getElem?_set_cases hval with hsame | ⟨-, rfl⟩
      · exact howner v validator p hsame ho
      · exact howner w old p hold ho

theorem linked_follow (hs : s.Linked) (calls : List (Call ν)) : (s.follow calls).Linked :=
  follow_induction (fun t c ht => (t.act_change c).linked ht) hs calls

theorem linked_after (calls : List (Call ν)) : (after calls).Linked :=
  linked_follow linked_empty calls

end Session

end Verdict
