import Verdict.Proofs.Check.Judgement

/-!
# Accepted arguments

A check with a limit or with two bounds is built if these are accepted, and only then
(`Shape.sound_bound_iff`, `Shape.sound_bounds_iff`). A limit is accepted if it is given and, where
that is asked for, not negative; two bounds, if each of them is and the lower one is not above the
upper one. So bounds that are accepted together are accepted one by one
(`requireLimit_of_requireRange`).
-/

namespace Verdict

variable {minimum maximum limit : Value} {key : String} {nonNegative : Bool}

/-! ## Requirements -/

theorem requireLimit_of_given (hnull : limit.isNull = false)
    (hnegative : nonNegative = true → limit.related .below (.int 0) = .ok false) (key : String) :
    requireLimit key limit nonNegative = .ok () := by
  rw [requireLimit, hnull, if_neg Bool.false_ne_true]
  cases nonNegative with
  | false => rfl
  | true =>
    rw [if_pos rfl, hnegative rfl]
    rfl

theorem related_of_requireLimit (h : requireLimit key limit true = .ok ()) :
    limit.related .below (.int 0) = .ok false := by
  rw [requireLimit, isNull_of_requireLimit h, if_neg Bool.false_ne_true, if_pos rfl] at h
  obtain ⟨negative, hnegative, h⟩ := exists_of_bind_eq_ok h
  cases negative with
  | false => exact hnegative
  | true => cases h

theorem related_of_eitherNegative (h : eitherNegative minimum maximum = .ok false) :
    minimum.related .below (.int 0) = .ok false ∧ maximum.related .below (.int 0) = .ok false := by
  obtain ⟨negative, hminimum, h⟩ := exists_of_bind_eq_ok h
  cases negative with
  | false => exact ⟨hminimum, h⟩
  | true => cases h

/-- Bounds in the wrong order are a fault of the arguments, whether they can be shown or not. -/
theorem family_invertedRange (minimum maximum : Value) :
    (invertedRange minimum maximum).family = .value := by
  rw [invertedRange, Value.requireWritable]
  cases Value.areWritable [minimum, maximum] <;> rfl

theorem related_of_requireRange (h : requireRange minimum maximum nonNegative = .ok ()) :
    (nonNegative = true → minimum.related .below (.int 0) = .ok false ∧
        maximum.related .below (.int 0) = .ok false) ∧
      minimum.related .above maximum = .ok false := by
  obtain ⟨hminimum, hmaximum⟩ := isNull_of_requireRange h
  rw [requireRange, hminimum, hmaximum, Bool.or_self, if_neg Bool.false_ne_true] at h
  have hordered (h : (do
      if ← minimum.related .above maximum then
        .error (invertedRange minimum maximum)
      else return) = Except.ok ()) : minimum.related .above maximum = .ok false := by
    obtain ⟨inverted, habove, h⟩ := exists_of_bind_eq_ok h
    cases inverted with
    | false => exact habove
    | true => cases h
  cases nonNegative with
  | false => exact ⟨fun h => (Bool.false_ne_true h).elim, hordered h⟩
  | true =>
    obtain ⟨negative, hnegative, h⟩ := exists_of_bind_eq_ok h
    cases negative with
    | false => exact ⟨fun _ => related_of_eitherNegative hnegative, hordered h⟩
    | true => cases h

/-- Bounds that are accepted together are accepted one by one. -/
theorem requireLimit_of_requireRange (h : requireRange minimum maximum nonNegative = .ok ()) :
    (∀ key, requireLimit key minimum nonNegative = .ok ()) ∧
      ∀ key, requireLimit key maximum nonNegative = .ok () := by
  obtain ⟨hminimum, hmaximum⟩ := isNull_of_requireRange h
  obtain ⟨hnegative, -⟩ := related_of_requireRange h
  exact ⟨requireLimit_of_given hminimum fun hn => (hnegative hn).1,
    requireLimit_of_given hmaximum fun hn => (hnegative hn).2⟩

/-! ## Shapes and checks -/

namespace Shape

theorem sound_bound_iff {aliases : List String} :
    (bound key limit nonNegative aliases).Sound ↔ requireLimit key limit nonNegative = .ok () := by
  constructor
  · rintro ⟨p, hp⟩
    obtain ⟨_, hlimit, -⟩ := exists_of_bind_eq_ok hp
    exact hlimit
  · intro h
    rw [Sound, parameters, h]
    exact ⟨_, rfl⟩

theorem sound_bounds_iff {minKey maxKey : String} :
    (bounds minKey minimum maxKey maximum nonNegative).Sound ↔
      requireRange minimum maximum nonNegative = .ok () := by
  constructor
  · rintro ⟨p, hp⟩
    obtain ⟨_, hrange, -⟩ := exists_of_bind_eq_ok hp
    exact hrange
  · intro h
    rw [Sound, parameters, h]
    exact ⟨_, rfl⟩

end Shape

namespace Check

theorem accept_bound {code : Code} {skipsNull : Bool} {test : Predicate}
    {details : Value → Parameters} {aliases : List String}
    (h : requireLimit key limit nonNegative = .ok ()) :
    accept ⟨code, .bound key limit nonNegative aliases, skipsNull, test, details⟩ =
      .ok ⟨code, .bound key limit nonNegative aliases, skipsNull, test, details⟩ :=
  accept_eq_ok_iff.mpr ⟨Shape.sound_bound_iff.mpr h, rfl⟩

theorem accept_bounds {code : Code} {skipsNull : Bool} {test : Predicate}
    {details : Value → Parameters} {minKey maxKey : String}
    (h : requireRange minimum maximum nonNegative = .ok ()) :
    accept ⟨code, .bounds minKey minimum maxKey maximum nonNegative, skipsNull, test, details⟩ =
      .ok ⟨code, .bounds minKey minimum maxKey maximum nonNegative, skipsNull, test, details⟩ :=
  accept_eq_ok_iff.mpr ⟨Shape.sound_bounds_iff.mpr h, rfl⟩

end Check

end Verdict
