import Mathlib.Data.List.Induction
import Verdict.Catalog.Layout
import Verdict.Proofs.Value.Scale

/-!
# Violations in order

Violations are put in order one by one, each behind all that do not come later, and the first two
places without an order end the work. If that does not happen, all violations are there and no
others (`perm_of_inOrder`).

Whether it happens is a matter of places alone. Where every two places are comparable there is
always an order (`exists_inOrder`). Where the places before have been put in order, a place that
comes before none of them and has no order with one of them is the end (`insertInOrder_eq_error`).
-/

namespace Verdict.Catalog

variable {x y : Violation} {vs ws : List Violation} {fault : Fault}

/-- Whether the place of one violation comes before that of another. -/
def isBefore (x y : Violation) : Except Fault Bool :=
  Value.related .below (.list x.place) (.list y.place)

/-! ## One more violation -/

theorem insertInOrder_of_isBefore (h : isBefore x y = .ok true) (rest : List Violation) :
    insertInOrder x (y :: rest) = .ok (x :: y :: rest) := by
  rw [isBefore] at h
  rw [insertInOrder, h]
  rfl

theorem insertInOrder_of_not_isBefore (h : isBefore x y = .ok false) (rest : List Violation) :
    insertInOrder x (y :: rest) = (insertInOrder x rest).map (y :: ·) := by
  rw [isBefore] at h
  rw [insertInOrder, h]
  cases insertInOrder x rest <;> rfl

theorem insertInOrder_of_fault (h : isBefore x y = .error fault) (rest : List Violation) :
    insertInOrder x (y :: rest) = .error fault := by
  rw [isBefore] at h
  rw [insertInOrder, h]
  rfl

theorem perm_of_insertInOrder (h : insertInOrder x vs = .ok ws) : ws.Perm (x :: vs) := by
  induction vs generalizing ws with
  | nil =>
    obtain rfl := Except.ok.inj h
    exact .refl _
  | cons y rest ih =>
    rcases hbefore : isBefore x y with fault | _ | _
    · rw [insertInOrder_of_fault hbefore] at h
      cases h
    · rw [insertInOrder_of_not_isBefore hbefore] at h
      obtain ⟨us, hus, rfl⟩ := exists_of_map_eq_ok h
      exact ((ih hus).cons y).trans (.swap x y rest)
    · rw [insertInOrder_of_isBefore hbefore] at h
      obtain rfl := Except.ok.inj h
      exact .refl _

theorem exists_insertInOrder (h : ∀ y ∈ vs, ∃ b, isBefore x y = .ok b) :
    ∃ ws, insertInOrder x vs = .ok ws := by
  induction vs with
  | nil => exact ⟨_, rfl⟩
  | cons y rest ih =>
    obtain ⟨⟨b, hbefore⟩, hrest⟩ := List.forall_mem_cons.mp h
    cases b with
    | false =>
      obtain ⟨ws, hws⟩ := ih hrest
      rw [insertInOrder_of_not_isBefore hbefore, hws]
      exact ⟨y :: ws, rfl⟩
    | true => exact ⟨_, insertInOrder_of_isBefore hbefore rest⟩

/-- A violation that comes before none of the others passes them by until it meets one that it has
no order with. -/
theorem insertInOrder_eq_error
    (h : ∀ y ∈ vs, isBefore x y = .ok false ∨ isBefore x y = .error fault)
    (hmeets : ∃ y ∈ vs, isBefore x y = .error fault) : insertInOrder x vs = .error fault := by
  induction vs with
  | nil =>
    obtain ⟨y, hy, -⟩ := hmeets
    cases hy
  | cons y rest ih =>
    obtain ⟨hy | hy, hrest⟩ := List.forall_mem_cons.mp h
    · have hlater : ∃ y ∈ rest, isBefore x y = .error fault := by
        obtain ⟨z, hz, hfault⟩ := hmeets
        rcases List.mem_cons.mp hz with rfl | hz
        · rw [hy] at hfault
          cases hfault
        · exact ⟨z, hz, hfault⟩
      rw [insertInOrder_of_not_isBefore hy, ih hrest hlater]
      rfl
    · exact insertInOrder_of_fault hy rest

/-! ## All violations -/

theorem inOrder_append (vs ws : List Violation) : inOrder (vs ++ ws) =
    inOrder vs >>= ws.foldlM fun sorted v => insertInOrder v sorted := by
  rw [inOrder, List.foldlM_append, inOrder]

theorem inOrder_concat (vs : List Violation) (v : Violation) :
    inOrder (vs ++ [v]) = inOrder vs >>= insertInOrder v := by
  rw [inOrder_append]
  congr 1
  funext sorted
  exact List.foldlM_cons.trans (bind_pure _)

/-- **Nothing is lost and nothing is added.** -/
theorem perm_of_inOrder (h : inOrder vs = .ok ws) : ws.Perm vs := by
  induction vs using List.reverseRecOn generalizing ws with
  | nil =>
    obtain rfl := Except.ok.inj h
    exact .refl _
  | append_singleton vs v ih =>
    rw [inOrder_concat] at h
    obtain ⟨us, hus, hv⟩ := exists_of_bind_eq_ok h
    have hmore : (v :: us).Perm (vs ++ [v]) :=
      ((ih hus).cons v).trans (List.perm_append_singleton v vs).symm
    exact (perm_of_insertInOrder hv).trans hmore

/-- **Comparable places can be put in order.** -/
theorem exists_inOrder (h : ∀ x ∈ vs, ∀ y ∈ vs, ∃ b, isBefore x y = .ok b) :
    ∃ ws, inOrder vs = .ok ws := by
  induction vs using List.reverseRecOn with
  | nil => exact ⟨[], rfl⟩
  | append_singleton vs v ih =>
    have hbefore : ∀ x ∈ vs, ∀ y ∈ vs, ∃ b, isBefore x y = .ok b := fun x hx y hy =>
      h x (List.mem_append_left _ hx) y (List.mem_append_left _ hy)
    obtain ⟨us, hus⟩ := ih hbefore
    rw [inOrder_concat, hus]
    refine exists_insertInOrder fun y hy => ?_
    exact h v List.mem_concat_self y (List.mem_append_left _ ((perm_of_inOrder hus).mem_iff.mp hy))

end Verdict.Catalog
