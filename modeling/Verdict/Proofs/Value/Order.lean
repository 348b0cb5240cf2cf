import Verdict.Proofs.Value.Equality

/-!
# The order of numbers

Truth values and numbers always have an answer when they are compared (`related_numeric`): it is
read off their places on the number line. The undefined number is the only one without a place, and
it is in no relation to any number. Of all others, each is at most itself, and of two one is at
most the other. To mean the same is to be both (`equals_eq_of_related`). With what is no number
there is no order (`related_of_not_numeric`).
-/

namespace Verdict

open Number

/-! ## Integers -/

/-- What a question about two integers asks. -/
theorem Relation.holds_compareInt (r : Relation) (i j : Int) :
    r.holds (some (compareInt i j)) = match r with
      | .below => decide (i < j)
      | .atMost => decide (i ≤ j)
      | .above => decide (j < i)
      | .atLeast => decide (j ≤ i) := by
  rcases Int.lt_trichotomy i j with h | rfl | h
  · cases r <;> simp [holds, compareInt, h, Int.le_of_lt h]
  · cases r <;> simp [holds, compareInt]
  · have hlt : ¬i < j := Int.not_lt.mpr (Int.le_of_lt h)
    have hle : ¬i ≤ j := Int.not_le.mpr h
    cases r <;> simp [holds, compareInt, h, hlt, hle, Int.ne_of_gt h, Int.le_of_lt h]

/-! ## Places -/

theorem Number.Place.compare_self (p : Place) : p.compare p = .eq := Place.compare_eq_iff.mpr rfl

/-- Integers stand on the number line in their order. -/
theorem Number.Place.compare_ofInt (i j : Int) :
    (Place.ofInt i).compare (.ofInt j) = compareInt i j := by
  have hone : 0 < (unitsPerOne : Int) := Int.natCast_pos.mpr (by decide +kernel)
  simp only [Place.ofInt, Place.compare, compareInt, Int.mul_lt_mul_right hone,
    Int.mul_eq_mul_right_iff (Int.ne_of_gt hone)]

@[simp] theorem comparePlaces_none_left (q : Option Place) : comparePlaces none q = none := rfl

@[simp] theorem comparePlaces_none_right (p : Option Place) : comparePlaces p none = none := by
  cases p <;> rfl

@[simp] theorem Relation.holds_none (r : Relation) : r.holds none = false := by
  cases r <;> rfl

/-- Of an order that is known, one of the two holds: above, or at most. -/
theorem Relation.holds_atMost_some (o : Ordering) :
    Relation.atMost.holds (some o) = !Relation.above.holds (some o) := by
  cases o <;> rfl

namespace Value

variable {a b v minimum maximum : Value}

/-- The number that is defined by nothing. -/
def undefined : Value := .float .nan

/-! ## Numbers -/

theorem isNull_of_isNumeric (h : a.isNumeric = true) : a.isNull = false := by
  cases a with
  | null => cases h
  | _ => rfl

/-- Every number but the undefined one has a place. -/
theorem exists_place?_of_isNumeric (h : a.isNumeric = true) (ha : a ≠ undefined) :
    ∃ p, a.place? = some p := by
  cases a with
  | bool b => exact ⟨_, rfl⟩
  | int i => exact ⟨_, rfl⟩
  | float x =>
    cases x with
    | nan => exact absurd rfl ha
    | infinite negative => cases negative <;> exact ⟨_, rfl⟩
    | finite negative units => cases negative <;> exact ⟨_, rfl⟩
  | _ => cases h

theorem place?_undefined : undefined.place? = none := rfl

theorem compare?_numeric (ha : a.isNumeric = true) (hb : b.isNumeric = true) :
    a.compare? b = .ok (comparePlaces a.place? b.place?) := by
  have hnumeric : compareNumeric a b = .ok (comparePlaces a.place? b.place?) := by
    rw [compareNumeric, if_pos hb]
  cases a with
  | bool _ | int _ | float _ => exact hnumeric
  | _ => cases ha

/-- **Numbers can always be compared**, and the answer is read off their places. -/
theorem related_numeric (r : Relation) (ha : a.isNumeric = true) (hb : b.isNumeric = true) :
    a.related r b = .ok (r.holds (comparePlaces a.place? b.place?)) := by
  rw [related, compare?_numeric ha hb]
  rfl

theorem related_int (r : Relation) (i j : Int) :
    related r (.int i) (.int j) = .ok (r.holds (some (compareInt i j))) := by
  rw [related_numeric r rfl rfl, place?, place?, comparePlaces, Place.compare_ofInt]

/-- A number cannot be compared with anything that is none, from neither side. -/
theorem related_of_not_numeric (r : Relation) (ha : a.isNumeric = false)
    (hb : b.isNumeric = true) :
    a.related r b = .error .unsupported ∧ b.related r a = .error .unsupported := by
  have hleft : a.compare? b = .error .unsupported := by
    cases b with
    | bool _ | int _ | float _ =>
      cases a with
      | bool _ | int _ | float _ => cases ha
      | _ => rfl
    | _ => cases hb
  have hright : b.compare? a = .error .unsupported := by
    have hnumeric : compareNumeric b a = .error .unsupported := by
      rw [compareNumeric, if_neg (by rw [ha]; exact Bool.false_ne_true)]
    cases b with
    | bool _ | int _ | float _ => exact hnumeric
    | _ => cases hb
  rw [related, related, hleft, hright]
  exact ⟨rfl, rfl⟩

/-- Of two values that can be compared, both are numbers or none is. -/
theorem isNumeric_eq_of_related {r : Relation} {answer : Bool} (h : a.related r b = .ok answer) :
    a.isNumeric = b.isNumeric := by
  rcases ha : a.isNumeric with _ | _ <;> rcases hb : b.isNumeric with _ | _
  · rfl
  · cases (related_of_not_numeric r ha hb).1.symm.trans h
  · cases (related_of_not_numeric r hb ha).2.symm.trans h
  · rfl

/-- To ask from the one side is to ask from the other. -/
theorem related_atLeast_eq (ha : a.isNumeric = true) :
    a.related .atLeast b = b.related .atMost a := by
  rcases hb : b.isNumeric with _ | _
  · rw [(related_of_not_numeric _ hb ha).1, (related_of_not_numeric _ hb ha).2]
  · rw [related_numeric _ ha hb, related_numeric _ hb ha]
    rcases a.place? with _ | p <;> rcases b.place? with _ | q
    · rfl
    · rfl
    · rfl
    · rw [comparePlaces, comparePlaces, ← Place.compare_swap p q]
      cases p.compare q <;> rfl

/-- Two numbers mean the same if the first is both at least and at most the second. -/
theorem equals_eq_of_related {lower upper : Bool} (ha : a.isNumeric = true)
    (hb : b.isNumeric = true) (hlower : a.related .atLeast b = .ok lower)
    (hupper : a.related .atMost b = .ok upper) : a.equals b = (lower && upper) := by
  rw [related_numeric _ ha hb] at hlower hupper
  obtain rfl := Except.ok.inj hlower
  obtain rfl := Except.ok.inj hupper
  rw [equals_of_isNumeric (.inl ha)]
  rcases a.place? with _ | p <;> rcases b.place? with _ | q
  · rfl
  · rfl
  · rfl
  · have hsame : (p == q) = (p.compare q == .eq) := by
      rw [Bool.eq_iff_iff, beq_iff_eq, beq_iff_eq, Place.compare_eq_iff]
    rw [samePlace, comparePlaces, hsame]
    cases p.compare q <;> rfl

/-- The undefined number is in no relation to a number. -/
theorem related_of_undefined (r : Relation) (ha : a.isNumeric = true) (hb : b.isNumeric = true)
    (h : a = undefined ∨ b = undefined) : a.related r b = .ok false := by
  rw [related_numeric r ha hb]
  rcases h with rfl | rfl
  · rw [place?_undefined, comparePlaces_none_left, Relation.holds_none]
  · rw [place?_undefined, comparePlaces_none_right, Relation.holds_none]

/-- Every number but the undefined one is at most itself. -/
theorem related_atMost_self (h : a.isNumeric = true) (ha : a ≠ undefined) :
    a.related .atMost a = .ok true := by
  obtain ⟨p, hp⟩ := exists_place?_of_isNumeric h ha
  rw [related_numeric _ h h, hp, comparePlaces, Place.compare_self]
  rfl

/-- Of two numbers that are not undefined, the first is at most the second unless it is above. -/
theorem related_atMost_iff (hnuma : a.isNumeric = true) (hnumb : b.isNumeric = true)
    (ha : a ≠ undefined) (hb : b ≠ undefined) :
    a.related .atMost b = .ok true ↔ a.related .above b = .ok false := by
  obtain ⟨p, hp⟩ := exists_place?_of_isNumeric hnuma ha
  obtain ⟨q, hq⟩ := exists_place?_of_isNumeric hnumb hb
  rw [related_numeric _ hnuma hnumb, related_numeric _ hnuma hnumb, hp, hq, comparePlaces,
    Relation.holds_atMost_some]
  cases Relation.above.holds (some (p.compare q)) <;> simp

/-! ## Between two numbers -/

theorem within_of_related {lower upper : Bool} (hlower : minimum.related .atMost v = .ok lower)
    (hupper : v.related .atMost maximum = .ok upper) :
    within minimum maximum v = .ok (lower && upper) := by
  rw [within, hlower]
  cases lower with
  | false => rfl
  | true => exact hupper

/-- The lower bound is asked first. -/
theorem within_of_fault {fault : Fault} (h : minimum.related .atMost v = .error fault) :
    within minimum maximum v = .error fault := by
  rw [within, h]
  rfl

/-- Nothing lies between two numbers one of which is undefined. -/
theorem within_of_undefined (hmin : minimum.isNumeric = true) (hmax : maximum.isNumeric = true)
    (h : minimum = undefined ∨ maximum = undefined) (hv : v.isNumeric = true) :
    within minimum maximum v = .ok false := by
  rcases h with h | h
  · rw [within_of_related (related_of_undefined _ hmin hv (.inl h)) (related_numeric _ hv hmax),
      Bool.false_and]
  · rw [within_of_related (related_numeric _ hmin hv) (related_of_undefined _ hv hmax (.inr h)),
      Bool.and_false]

end Value

end Verdict
