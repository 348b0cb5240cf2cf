import Verdict.Proofs.Calendar
import Verdict.Proofs.Value.Scale
import Verdict.Value.Display

/-!
# Scalars that read the same

What kind of scalar is written can be told from the characters, apart from texts and from numbers
in floating point: a word begins with a letter, a negative number with its sign, and of what begins
with a digit only a moment has a space and only dates and moments have a hyphen (`lookOf_display`).
Within a kind nothing is written in one way twice, as long as moments are in no region, since
regions are not written. So of two different plain values that read the same, one is a text or a
number in floating point (`eq_of_display_eq`).
-/

namespace Verdict

open Text

/-- What the text of a scalar looks like. -/
inductive Look where
  | word
  | negative
  | natural
  | date
  | moment
deriving DecidableEq

/-- What characters look like. -/
def lookOf : List Char → Look
  | [] => .word
  | c :: rest =>
    if c = '-' then .negative
    else if c.isDigit then
      if ' ' ∈ rest then .moment else if '-' ∈ rest then .date else .natural
    else .word

theorem not_mem_of_isDigit {ds : List Char} (hds : ∀ c ∈ ds, c.isDigit = true) {c : Char}
    (hc : c.isDigit = false) : c ∉ ds := fun h => by
  rw [hds c h] at hc
  cases hc

/-- Behind digits a space and a hyphen are what counts. -/
theorem lookOf_digits_append {ds : List Char} (hne : ds ≠ []) (hds : ∀ c ∈ ds, c.isDigit = true)
    (rest : List Char) : lookOf (ds ++ rest) =
      if ' ' ∈ rest then .moment else if '-' ∈ rest then .date else .natural := by
  obtain ⟨d, ds, rfl⟩ := List.exists_cons_of_ne_nil hne
  obtain ⟨hd, hds⟩ := List.forall_mem_cons.mp hds
  have hsign : d ≠ '-' := by
    rintro rfl
    cases hd
  rw [List.cons_append, lookOf, if_neg hsign, if_pos hd]
  simp only [List.mem_append, not_mem_of_isDigit hds (by decide : ' '.isDigit = false),
    not_mem_of_isDigit hds (by decide : '-'.isDigit = false), false_or]

/-- A moment can be equal to itself. -/
theorem Moment.canEqual_self (m : Moment) : m.canEqual m = true := by
  rcases hz : m.zone with _ | _ | _ <;> simp [canEqual, hz, Zone.sharesClock, Zone.isSettled]

namespace Value

/-- Whether the value has no parts, and is no moment in a region. -/
def isPlain : Value → Bool
  | .moment m => m.isPlain
  | v => v.isScalar

/-- What the text of a value looks like, if it can be told what the value is. -/
def look? : Value → Option Look
  | .null | .bool _ => some .word
  | .int (.ofNat _) => some .natural
  | .int (.negSucc _) => some .negative
  | .date _ => some .date
  | .moment _ => some .moment
  | _ => none

variable {a b v : Value} {look look' : Look}

theorem isScalar_of_isPlain (h : v.isPlain = true) : v.isScalar = true := by
  cases v with
  | moment m => rfl
  | _ => exact h

/-- A scalar is a text, or a number in floating point, or it looks like what it is. -/
theorem exists_look?_of_isScalar (h : v.isScalar = true) :
    (∃ s, v = .text s) ∨ (∃ x, v = .float x) ∨ ∃ look, v.look? = some look := by
  cases v with
  | text s => exact .inl ⟨s, rfl⟩
  | float x => exact .inr (.inl ⟨x, rfl⟩)
  | int i => cases i <;> exact .inr (.inr ⟨_, rfl⟩)
  | list _ | tuple _ | mapping _ => cases h
  | _ => exact .inr (.inr ⟨_, rfl⟩)

theorem repr_injective {m n : Nat} (h : Nat.repr m = Nat.repr n) : m = n := by
  have hread := congrArg (fun s : String => Nat.ofDigitChars 10 s.toList 0) h
  simpa only [Nat.toList_repr, Nat.ofDigitChars_ten_toDigits] using hread

theorem equals_self_of_look? (h : v.look? = some look) : v.equals v = true := by
  cases v with
  | null => rfl
  | bool _ | int _ => simp [equals, samePlace, place?]
  | date d => simp [equals]
  | moment m => simp [equals, Moment.same, Moment.canEqual_self]
  | _ => cases h

/-- What a value is can be told from its text. -/
theorem lookOf_display (h : v.look? = some look) : lookOf v.display.toList = look := by
  cases v with
  | null =>
    obtain rfl := Option.some.inj h
    rfl
  | bool b =>
    obtain rfl := Option.some.inj h
    cases b <;> rfl
  | int i =>
    cases i with
    | ofNat n =>
      obtain rfl := Option.some.inj h
      have hlook := lookOf_digits_append (Nat.toDigits_ne_nil (n := n))
        (fun _ => isDigit_of_mem_toDigits) []
      rwa [List.append_nil, ← Nat.toList_repr] at hlook
    | negSucc n =>
      obtain rfl := Option.some.inj h
      simp [display, term, decimal, lookOf]
  | date d =>
    obtain rfl := Option.some.inj h
    have hspace (n : Nat) : ' ' ∉ (padded 2 n).toList :=
      not_mem_of_isDigit (fun _ => isDigit_of_mem_padded) (by decide)
    rw [display, Date.toList_text, lookOf_digits_append (padded_ne_nil _ _)
      fun _ => isDigit_of_mem_padded]
    simp [hspace]
  | moment m =>
    obtain rfl := Option.some.inj h
    rw [display, Moment.toList_display, Date.toList_text, List.append_assoc,
      lookOf_digits_append (padded_ne_nil _ _) fun _ => isDigit_of_mem_padded]
    simp
  | _ => cases h

/-- **Nothing is written in one way twice**, if texts, numbers in floating point and regions are
left out. -/
theorem eq_of_display_eq (ha : a.look? = some look) (hb : b.look? = some look')
    (hpa : a.isPlain = true) (hpb : b.isPlain = true) (h : a.display = b.display) : a = b := by
  -- values of different kinds are out, and so are most pairs of constructors below
  have hsame : a.look? = b.look? := by
    rw [ha, hb, ← lookOf_display ha, ← lookOf_display hb, h]
  cases a with
  | null =>
    cases b with
    | null => rfl
    | bool y => cases y <;> exact absurd h (by decide)
    | int j => cases j <;> cases hsame
    | _ => cases hsame
  | bool x =>
    cases b with
    | null => cases x <;> exact absurd h (by decide)
    | bool y => cases x <;> cases y <;> first | rfl | exact absurd h (by decide)
    | int j => cases j <;> cases hsame
    | _ => cases hsame
  | int i =>
    cases b with
    | int j =>
      cases i with
      | ofNat m =>
        cases j with
        | ofNat n => rw [repr_injective h]
        | negSucc _ => cases hsame
      | negSucc m =>
        cases j with
        | ofNat _ => cases hsame
        | negSucc n =>
          rw [Nat.succ.inj (repr_injective ((String.append_right_inj "-").mp h))]
    | _ => cases i <;> cases hsame
  | date d =>
    cases b with
    | date e => rw [Date.text_injective h]
    | int j => cases j <;> cases hsame
    | _ => cases hsame
  | moment m =>
    cases b with
    | moment n => rw [Moment.display_injective hpa hpb h]
    | int j => cases j <;> cases hsame
    | _ => cases hsame
  | _ => cases ha

/-- Of what looks like what it is, only moments have points, and these have a space. -/
theorem space_mem_display_of_point_mem (h : v.look? = some look)
    (hpoint : '.' ∈ v.display.toList) : ' ' ∈ v.display.toList := by
  cases v with
  | moment m =>
    rw [display, Moment.toList_display]
    simp
  | null => exact absurd hpoint (by decide)
  | bool b => cases b <;> exact absurd hpoint (by decide)
  | int i =>
    have hdigits (n : Nat) : '.' ∉ Nat.toDigits 10 n :=
      not_mem_of_isDigit (fun _ => isDigit_of_mem_toDigits) (by decide)
    cases i <;> simp [display, term, decimal, hdigits] at hpoint
  | date d =>
    have hpadded (width n : Nat) : '.' ∉ (padded width n).toList :=
      not_mem_of_isDigit (fun _ => isDigit_of_mem_padded) (by decide)
    simp [display, Date.toList_text, hpadded] at hpoint
  | _ => cases h

/-! ## What can be written -/

theorem areWritable_iff {vs : List Value} :
    areWritable vs = true ↔ ∀ v ∈ vs, v.isWritable = true := by
  induction vs with
  | nil => exact iff_of_true rfl fun _ h => (List.not_mem_nil h).elim
  | cons v rest ih => rw [areWritable, Bool.and_eq_true, List.forall_mem_cons, ih]

theorem requireWritable_of_areWritable {vs : List Value} (h : areWritable vs = true) :
    requireWritable vs = .ok () := if_pos h

theorem requireWritable_of_not_areWritable {vs : List Value} (h : areWritable vs = false) :
    requireWritable vs = .error .integerTooLong :=
  if_neg (by rw [h]; exact Bool.false_ne_true)

/-- Entries with texts can be written if their keys can be. -/
theorem areWritableEntries_of_texts {entries : List (Value × Value)}
    (h : ∀ e ∈ entries, ∃ s, e.2 = .text s) :
    areWritableEntries entries = areWritable (entries.map (·.1)) := by
  induction entries with
  | nil => rfl
  | cons e rest ih =>
    obtain ⟨⟨s, hs⟩, hrest⟩ := List.forall_mem_cons.mp h
    obtain ⟨key, value⟩ := e
    obtain rfl : value = .text s := hs
    rw [areWritableEntries, List.map_cons, areWritable, ih hrest]
    exact congrArg (· && areWritable (rest.map (·.1))) (Bool.and_true key.isWritable)

end Value

end Verdict
