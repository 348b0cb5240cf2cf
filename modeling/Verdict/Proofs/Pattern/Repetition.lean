import Verdict.Pattern.Reading

/-!
# Repetitions of a set of characters

A set that is repeated takes as many characters as it can and gives them back one by one until what
follows goes on. No way to go on is missed by that: there is one exactly if there is some number of
characters within the bounds, all of the set, after which what follows goes on
(`Expr.run_many_one_isSome_iff`). The rounds are bounded by a count of their own, and a round that
begins where the one before began is the last; neither is ever met, since each round consumes a
character (`rounds_one_isSome_iff`).

Where nothing follows but the end of the text, the whole text is of the set and its length within
the bounds (`Expr.matchesAll_many_one`). A text that writes such a pattern is known by the set that
it is read into (`read_of_repeatedSet?`).
-/

namespace Verdict.Pattern

variable {o : Options} {set : CharSet} {onward : Onward} {min : Nat} {max : Option Nat}
  {count k : Nat} {s : Cursor}

/-! ## Going forward -/

namespace Cursor

/-- The cursor the given number of characters on. -/
def forward (s : Cursor) (k : Nat) : Cursor :=
  { s with
    before := (s.after.take k).reverse ++ s.before
    after := s.after.drop k
    place := s.place + k }

theorem forward_succ {c : Char} {rest : List Char} (h : s.after = c :: rest) (k : Nat) :
    s.forward (k + 1) = (s.step c rest).forward k := by
  simp [forward, step, h, Nat.add_assoc, Nat.add_comm 1]

end Cursor

/-- A repetition that has had some rounds may end after `k` more: the next characters are of the
set, the rounds are within the bounds, and what follows goes on from there. -/
structure EndsAfter (o : Options) (set : CharSet) (onward : Onward) (min : Nat) (max : Option Nat)
    (count : Nat) (s : Cursor) (k : Nat) : Prop where
  fits : k ≤ s.after.length
  has : ∀ c ∈ s.after.take k, set.has o c = true
  enough : min ≤ count + k
  allowed : ∀ n ∈ max, count + k ≤ n
  goesOn : (onward (s.forward k)).isSome = true

theorem endsAfter_zero_iff : EndsAfter o set onward min max count s 0 ↔
    min ≤ count ∧ (∀ n ∈ max, count ≤ n) ∧ (onward s).isSome = true :=
  ⟨fun h => ⟨h.enough, h.allowed, h.goesOn⟩,
    fun ⟨henough, hallowed, hgoesOn⟩ => ⟨Nat.zero_le _, nofun, henough, hallowed, hgoesOn⟩⟩

/-- One more round takes a character of the set. -/
theorem endsAfter_succ_iff : EndsAfter o set onward min max count s (k + 1) ↔
    ∃ c rest, s.after = c :: rest ∧ set.has o c = true ∧
      EndsAfter o set onward min max (count + 1) (s.step c rest) k := by
  have hcount : count + 1 + k = count + (k + 1) := by omega
  constructor
  · rintro ⟨hfits, hhas, henough, hallowed, hgoesOn⟩
    rcases hafter : s.after with _ | ⟨c, rest⟩
    · rw [hafter] at hfits
      exact absurd hfits (Nat.not_succ_le_zero k)
    · rw [hafter, List.take_succ_cons, List.forall_mem_cons] at hhas
      rw [hafter] at hfits
      rw [Cursor.forward_succ hafter] at hgoesOn
      rw [← hcount] at henough hallowed
      exact ⟨c, rest, rfl, hhas.1, Nat.le_of_succ_le_succ hfits, hhas.2, henough, hallowed,
        hgoesOn⟩
  · rintro ⟨c, rest, hafter, hc, hfits, hhas, henough, hallowed, hgoesOn⟩
    rw [hcount] at henough hallowed
    refine ⟨?_, ?_, henough, hallowed, ?_⟩
    · rw [hafter]
      exact Nat.succ_le_succ hfits
    · rw [hafter, List.take_succ_cons, List.forall_mem_cons]
      exact ⟨hc, hhas⟩
    · rw [Cursor.forward_succ hafter]
      exact hgoesOn

/-- A repetition ends here, or takes a character and ends later. -/
theorem exists_endsAfter_iff : (∃ k, EndsAfter o set onward min max count s k) ↔
    (min ≤ count ∧ (∀ n ∈ max, count ≤ n) ∧ (onward s).isSome = true) ∨
      ∃ c rest, s.after = c :: rest ∧ set.has o c = true ∧
        ∃ k, EndsAfter o set onward min max (count + 1) (s.step c rest) k := by
  rw [← Nat.or_exists_add_one, endsAfter_zero_iff]
  simp only [endsAfter_succ_iff]
  refine or_congr_right ⟨?_, ?_⟩
  · rintro ⟨k, c, rest, hafter, hc, hends⟩
    exact ⟨c, rest, hafter, hc, k, hends⟩
  · rintro ⟨c, rest, hafter, hc, k, hends⟩
    exact ⟨k, c, rest, hafter, hc, hends⟩

/-! ## Rounds -/

theorem Expr.run_one_isSome_iff : ((Expr.one o set).run onward s).isSome = true ↔
    ∃ c rest, s.after = c :: rest ∧ set.has o c = true ∧
      (onward (s.step c rest)).isSome = true := by
  rw [Expr.run]
  rcases hafter : s.after with _ | ⟨c, rest⟩
  · simp
  · by_cases hc : set.has o c = true
    · simp only [if_pos hc, List.cons.injEq]
      exact ⟨fun h => ⟨c, rest, ⟨rfl, rfl⟩, hc, h⟩, fun ⟨_, _, ⟨rfl, rfl⟩, _, h⟩ => h⟩
    · simp only [if_neg hc, List.cons.injEq]
      exact ⟨nofun, fun ⟨_, _, ⟨rfl, rfl⟩, h, _⟩ => absurd h hc⟩

theorem mayRepeat_iff : mayRepeat max count = true ↔ ∀ n ∈ max, count + 1 ≤ n := by
  cases max with
  | none => exact ⟨nofun, fun _ => rfl⟩
  | some n =>
    rw [mayRepeat, decide_eq_true_eq]
    refine ⟨fun h m hm => ?_, fun h => h n rfl⟩
    obtain rfl := Option.some.inj hm
    exact h

/-- **Rounds of a set, the most first, find every end there is.** By induction on the bound of the
rounds: each of them leaves fewer characters than it found, and the place of the one before behind
it. -/
theorem rounds_one_isSome_iff (hmin : ∀ n ∈ max, min ≤ n) {fuel : Nat} {last : Option Nat}
    (hfuel : s.after.length < fuel) (hlast : ∀ p ∈ last, p < s.place)
    (hcount : ∀ n ∈ max, count ≤ n) :
    (rounds (Expr.one o set).run onward min max fuel count last s).isSome = true ↔
      ∃ k, EndsAfter o set onward min max count s k := by
  induction fuel generalizing count last s with
  | zero => exact absurd hfuel (Nat.not_lt_zero _)
  | succ fuel ih =>
    have hround {place : Option Nat} (hplace : ∀ p ∈ place, p ≤ s.place)
        (hmore : ∀ n ∈ max, count + 1 ≤ n) :
        ((Expr.one o set).run (rounds (Expr.one o set).run onward min max fuel (count + 1) place)
          s).isSome = true ↔ ∃ c rest, s.after = c :: rest ∧ set.has o c = true ∧
            ∃ k, EndsAfter o set onward min max (count + 1) (s.step c rest) k := by
      rw [Expr.run_one_isSome_iff]
      refine exists_congr fun c => exists_congr fun rest => and_congr_right fun hafter =>
        and_congr_right fun _ => ih ?_ (fun p hp => Nat.lt_succ_of_le (hplace p hp)) hmore
      rw [hafter, List.length_cons] at hfuel
      exact Nat.lt_of_succ_lt_succ hfuel
    rw [rounds, exists_endsAfter_iff]
    by_cases hless : count < min
    · -- a required round: the repetition cannot end here
      rw [if_pos hless, hround (fun p hp => Nat.le_of_lt (hlast p hp))
        fun n hn => Nat.le_trans hless (hmin n hn)]
      exact ⟨.inr, fun h => h.resolve_left fun hhere => Nat.not_le.mpr hless hhere.1⟩
    rw [if_neg hless]
    have hhere : (min ≤ count ∧ (∀ n ∈ max, count ≤ n) ∧ (onward s).isSome = true) ↔
        (onward s).isSome = true :=
      ⟨fun h => h.2.2, fun h => ⟨Nat.not_lt.mp hless, hcount, h⟩⟩
    have hmoved : (last != some s.place) = true :=
      bne_iff_ne.mpr fun h => Nat.lt_irrefl _ (hlast s.place h)
    rw [hhere, hmoved, Bool.and_true]
    by_cases hmore : mayRepeat max count = true
    · rw [if_pos hmore, ← hround (fun p hp => Nat.le_of_eq (Option.some.inj hp).symm)
        (mayRepeat_iff.mp hmore)]
      cases (Expr.one o set).run (rounds (Expr.one o set).run onward min max fuel (count + 1)
        (some s.place)) s <;> simp
    · rw [if_neg hmore]
      refine ⟨.inl, fun h => h.resolve_right ?_⟩
      rintro ⟨_, _, _, _, k, hends⟩
      exact hmore (mayRepeat_iff.mpr fun n hn => Nat.le_of_add_right_le (hends.allowed n hn))

/-! ## The repetition as an expression -/

/-- A set that is repeated goes on exactly if it can, after some number of its characters. -/
theorem Expr.run_many_one_isSome_iff (hmin : ∀ n ∈ max, min ≤ n) :
    ((Expr.many .greedy min max (.one o set)).run onward s).isSome = true ↔
      ∃ k, EndsAfter o set onward min max 0 s k := by
  rw [Expr.run]
  refine rounds_one_isSome_iff hmin ?_ nofun fun _ _ => Nat.zero_le _
  rw [roundsFrom]
  omega

/-- The end of the text is reached after all of its characters. -/
theorem endsAfter_start_iff {text : List Char} :
    EndsAfter o set (fun s => if s.after.isEmpty then some s else none) min max 0
        (Cursor.start text) k ↔
      k = text.length ∧ (∀ c ∈ text, set.has o c = true) ∧ min ≤ k ∧ ∀ n ∈ max, k ≤ n := by
  have hend : (if ((Cursor.start text).forward k).after.isEmpty then
      some ((Cursor.start text).forward k) else none).isSome = true ↔ text.length ≤ k := by
    rw [Option.isSome_ite, List.isEmpty_iff]
    exact List.drop_eq_nil_iff
  constructor
  · rintro ⟨hfits, hhas, henough, hallowed, hgoesOn⟩
    obtain rfl : k = text.length := Nat.le_antisymm hfits (hend.mp hgoesOn)
    rw [Nat.zero_add] at henough hallowed
    rw [Cursor.start, List.take_length] at hhas
    exact ⟨rfl, hhas, henough, hallowed⟩
  · rintro ⟨rfl, hhas, henough, hallowed⟩
    refine ⟨Nat.le_refl _, ?_, ?_, ?_, hend.mpr (Nat.le_refl _)⟩
    · rw [Cursor.start, List.take_length]
      exact hhas
    · rw [Nat.zero_add]
      exact henough
    · rw [Nat.zero_add]
      exact hallowed

/-- **A repeated set matches the texts of its characters** whose length is within the bounds. -/
theorem Expr.matchesAll_many_one (hmin : ∀ n ∈ max, min ≤ n) (text : List Char) :
    (Expr.many .greedy min max (.one o set)).matchesAll text = true ↔
      (∀ c ∈ text, set.has o c = true) ∧ min ≤ text.length ∧ ∀ n ∈ max, text.length ≤ n := by
  rw [Expr.matchesAll, Expr.run_many_one_isSome_iff hmin]
  simp only [endsAfter_start_iff, exists_eq_left]

/-! ## Patterns that are such a repetition -/

/-- The set of a pattern that asks for one character of it or more. -/
def repeatedSet? : Pattern → Option (Options × CharSet)
  | ⟨_, .many .greedy 1 none (.one o set)⟩ => some (o, set)
  | _ => none

theorem expr_of_repeatedSet? {p : Pattern} (h : p.repeatedSet? = some (o, set)) :
    p.expr = .many .greedy 1 none (.one o set) := by
  unfold repeatedSet? at h
  split at h
  · cases h
    rfl
  · cases h

theorem source_of_read {source : String} {ignoreCase : Bool} {p : Pattern}
    (h : read source ignoreCase = .ok p) : p.source = source := by
  rw [read] at h
  split at h
  · cases h
  · dsimp only at h
    split at h
    · cases h
      rfl
    · cases h

/-- What a text is read into, if it is known to repeat a set. -/
theorem read_of_repeatedSet? {source : String} {ignoreCase : Bool}
    (h : (read source ignoreCase).toOption.bind repeatedSet? = some (o, set)) :
    read source ignoreCase = .ok ⟨source, .many .greedy 1 none (.one o set)⟩ := by
  rcases hread : read source ignoreCase with fault | p
  · rw [hread] at h
    cases h
  · rw [hread] at h
    rw [← expr_of_repeatedSet? h, ← source_of_read hread]

end Verdict.Pattern
