import Verdict.Value.Display
import Verdict.Value.Order

/-!
# Scales

The order of values is only known within a scale: numbers, truth values among them, texts, dates,
and moments, which are apart by whether they have a zone. Two scalars are `Comparable`, which is to
say that they mean the same or have an order, exactly when they stand on one scale
(`comparable_iff_scale?_eq`). Nothing stands on no scale, and is comparable to itself alone.
-/

namespace Verdict.Value

/-- Whether the value has no parts. -/
def isScalar : Value → Bool
  | .list _ | .tuple _ | .mapping _ => false
  | _ => true

/-- The scales. -/
inductive Scale where
  | numbers
  | texts
  | dates
  | moments (hasZone : Bool)
deriving DecidableEq

/-- The scale of a value, if it stands on one. -/
def scale? : Value → Option Scale
  | .bool _ | .int _ | .float _ => some .numbers
  | .text _ => some .texts
  | .date _ => some .dates
  | .moment m => some (.moments m.hasZone)
  | _ => none

/-- The values mean the same or have an order. -/
def Comparable (a b : Value) : Prop := a.equals b = true ∨ ∃ o, a.compare? b = .ok o

variable {a b : Value}

/-! ## Meaning the same -/

theorem equals_text_iff {s : String} : a.equals (.text s) = true ↔ a = .text s := by
  cases a with
  | text t => simp [equals]
  | bool _ | int _ => simp [equals, samePlace, place?]
  | float x => cases hx : x.place? <;> simp [equals, samePlace, place?, hx]
  | _ => simp [equals, isNull]

/-- Values on different scales do not mean the same. -/
theorem equals_eq_false_of_scale?_ne (ha : a.isScalar = true) (hb : b.isScalar = true)
    (h : a.scale? ≠ b.scale?) : a.equals b = false := by
  cases a <;> cases b <;>
    simp_all [isScalar, scale?, equals, isNull, samePlace, place?, Moment.same]

/-! ## Order -/

/-- On one scale there is an order. -/
theorem exists_compare?_of_scale?_eq (h : a.scale? = b.scale?) (hscale : a.scale? ≠ none) :
    ∃ o, a.compare? b = .ok o := by
  cases a <;> cases b <;> simp_all [scale?, compare?, compareNumeric, isNumeric]

/-- Between two scales there is no order. -/
theorem compare?_of_scale?_ne (ha : a.isScalar = true) (hb : b.isScalar = true)
    (h : a.scale? ≠ b.scale?) : a.compare? b = .error .unsupported := by
  cases a <;> cases b <;>
    simp_all [isScalar, scale?, compare?, compareNumeric, isNumeric]

/-- Nothing is the only scalar that stands on no scale. -/
theorem eq_null_of_scale?_eq_none (ha : a.isScalar = true) (h : a.scale? = none) : a = .null := by
  cases a with
  | null => rfl
  | list _ | tuple _ | mapping _ => cases ha
  | _ => cases h

/-- Only texts stand on the scale of texts. -/
theorem eq_text_of_scale?_eq (h : a.scale? = some .texts) : a = .text a.display := by
  cases a with
  | text s => rfl
  | _ => cases h

/-- **Scalars are comparable on one scale only.** -/
theorem comparable_iff_scale?_eq (ha : a.isScalar = true) (hb : b.isScalar = true) :
    Comparable a b ↔ a.scale? = b.scale? := by
  constructor
  · intro h
    refine Decidable.byContradiction fun hne => ?_
    rcases h with heq | ⟨o, ho⟩
    · rw [equals_eq_false_of_scale?_ne ha hb hne] at heq
      cases heq
    · rw [compare?_of_scale?_ne ha hb hne] at ho
      cases ho
  · intro h
    by_cases hscale : a.scale? = none
    · obtain rfl := eq_null_of_scale?_eq_none ha hscale
      obtain rfl := eq_null_of_scale?_eq_none hb h.symm
      exact .inl rfl
    · exact .inr (exists_compare?_of_scale?_eq h hscale)

end Verdict.Value
