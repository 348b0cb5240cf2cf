import Verdict.Proofs.Result.Index

/-!
# Consistent results

A result is consistent when the index of every ledger in it is the index of that ledger's failures.
Adding and replacing keep that, and a consistent result answers every question as its list of
failures does (`Result.Consistent.answers_eq`), however it is layered.

What changes a consistent result is therefore known from the list alone. `Result.addAll` says what a
result is after failures were added; `Result.Consistent.replace_added` says that replacing one of
them is as if the other failure had been added in the first place.
-/

namespace Verdict

namespace Ledger

/-- The ledger that holds the failures. -/
def ofEntries (fs : List Failure) : Ledger := ⟨fs, FailureIndex.ofList fs⟩

theorem consistent_ofEntries (fs : List Failure) : (ofEntries fs).Consistent := rfl

/-- A consistent ledger is known from its failures. -/
theorem Consistent.eq_ofEntries {l : Ledger} (h : l.Consistent) : l = ofEntries l.entries := by
  obtain ⟨fs, index⟩ := l
  obtain rfl : index = FailureIndex.ofList fs := h
  rfl

theorem ofEntries_add (fs : List Failure) (f : Failure) :
    (ofEntries fs).add f = ofEntries (fs ++ [f]) := by
  rw [add, ofEntries, ofEntries, FailureIndex.ofList_concat]

/-! ## Replacing

A place splits the failures into those before it, the one there, and those after it. -/

/-- A replacement whose place is in the list is settled by the elements of the two failures. -/
theorem replace_of_split {l : Ledger} {index : Int} {before after : List Failure} {f : Failure}
    (hl : l.entries = before ++ f :: after)
    (hp : placeOf l.entries.length index = before.length) (g : Failure) :
    l.replace index g =
      if g.identifier = f.identifier then
        .ok ⟨before ++ g :: after, l.index.adjust f.identifier fun fs =>
          fs.set (before.countP (·.identifier = f.identifier)) g⟩
      else .error (.replacementMismatch g.identifier f.identifier) := by
  have hat : (before ++ f :: after)[before.length]? = some f := by simp
  have htake : (before ++ f :: after).take before.length = before := by simp
  have hset : (before ++ f :: after).set before.length g = before ++ g :: after := by simp
  unfold replace
  rw [hp, if_neg (Int.not_lt.mpr (Int.natCast_nonneg _)), Int.toNat_natCast, hl, hat]
  simp only [htake, hset]

/-- A replacement whose place is not in the list fails. -/
theorem replace_out_of_range {l : Ledger} {index : Int}
    (hp : ¬ (0 ≤ placeOf l.entries.length index ∧
      placeOf l.entries.length index < l.entries.length)) (g : Failure) :
    l.replace index g = .error .indexOutOfRange := by
  unfold replace
  by_cases h0 : placeOf l.entries.length index < 0
  · rw [if_pos h0]
  · have hlen : l.entries.length ≤ (placeOf l.entries.length index).toNat := by omega
    rw [if_neg h0, List.getElem?_eq_none hlen]

/-- A place in the list splits it. -/
theorem exists_split {fs : List Failure} {place : Int} (h0 : 0 ≤ place)
    (hlt : place < fs.length) :
    ∃ before f after, fs = before ++ f :: after ∧ place = before.length := by
  have hn : place.toNat < fs.length := by omega
  refine ⟨fs.take place.toNat, fs[place.toNat], fs.drop (place.toNat + 1), ?_, ?_⟩
  · rw [← List.drop_eq_getElem_cons hn, List.take_append_drop]
  · rw [List.length_take]
    omega

/-- What a replacement that succeeds has found and leaves behind. -/
theorem replace_eq_ok {l l' : Ledger} {index : Int} {g : Failure}
    (h : l.replace index g = .ok l') :
    ∃ before f after, l.entries = before ++ f :: after ∧
      placeOf l.entries.length index = before.length ∧ g.identifier = f.identifier ∧
      l' = ⟨before ++ g :: after, l.index.adjust f.identifier fun fs =>
        fs.set (before.countP (·.identifier = f.identifier)) g⟩ := by
  by_cases hp : 0 ≤ placeOf l.entries.length index ∧
      placeOf l.entries.length index < l.entries.length
  · obtain ⟨before, f, after, hl, hb⟩ := exists_split hp.1 hp.2
    rw [replace_of_split hl hb] at h
    by_cases hid : g.identifier = f.identifier
    · rw [if_pos hid] at h
      exact ⟨before, f, after, hl, hb, hid, (Except.ok.inj h).symm⟩
    · rw [if_neg hid] at h
      cases h
  · rw [replace_out_of_range hp] at h
    cases h

/-- Replacing in the ledger of a list gives the ledger of the changed list. -/
theorem replace_ofEntries {before after : List Failure} {index : Int} {f : Failure}
    (hp : placeOf (before ++ f :: after).length index = before.length) (g : Failure) :
    (ofEntries (before ++ f :: after)).replace index g =
      if g.identifier = f.identifier then .ok (ofEntries (before ++ g :: after))
      else .error (.replacementMismatch g.identifier f.identifier) := by
  rw [replace_of_split rfl hp]
  by_cases hid : g.identifier = f.identifier
  · rw [if_pos hid, if_pos hid, ofEntries, ofEntries, FailureIndex.adjust_ofList before after hid]
  · rw [if_neg hid, if_neg hid]

theorem consistent_empty : empty.Consistent := rfl

theorem Consistent.add {l : Ledger} (h : l.Consistent) (f : Failure) : (l.add f).Consistent := by
  rw [h.eq_ofEntries, ofEntries_add]
  exact consistent_ofEntries _

/-- A replacement that succeeds keeps a ledger consistent. -/
theorem Consistent.replace {l l' : Ledger} {index : Int} {g : Failure} (h : l.Consistent)
    (hr : l.replace index g = .ok l') : l'.Consistent := by
  obtain ⟨before, f, after, hl, -, hid, rfl⟩ := replace_eq_ok hr
  rw [Consistent, h, hl, FailureIndex.adjust_ofList before after hid]

end Ledger

/-! ## What a list of failures answers -/

/-- The answers that are read off a list of failures. -/
def Answers.ofFailures (fs : List Failure) : Answers where
  failures := fs
  size := fs.length
  hasErrors := !fs.isEmpty
  hasErrorFor := fun id => fs.any fun f => decide (some f.identifier = id)
  errorsFor := fun id => fs.filter fun f => decide (some f.identifier = id)
  byIdentifier := FailureIndex.ofList fs
  blockingFailures := fs.filter (·.isBlocking)

/-- Whether an element has a failure is told by the elements of the failures alone. -/
theorem Answers.hasErrorFor_congr {fs gs : List Failure}
    (h : fs.map (·.identifier) = gs.map (·.identifier)) :
    (ofFailures fs).hasErrorFor = (ofFailures gs).hasErrorFor := by
  have hview (fs : List Failure) (id : Option Identifier) : (ofFailures fs).hasErrorFor id =
      (fs.map (·.identifier)).any fun i => decide (some i = id) := by
    rw [List.any_map]
    rfl
  funext id
  rw [hview, hview, h]

namespace Result

/-- Every ledger of the result is consistent. -/
def Consistent : Result → Prop
  | plain l => l.Consistent
  | layered parent l => parent.Consistent ∧ l.Consistent

variable {r : Result}

theorem Consistent.own (h : r.Consistent) : r.own.Consistent := by
  cases r with
  | plain l => exact h
  | layered parent l => exact h.2

theorem Consistent.withOwn (h : r.Consistent) {l : Ledger} (hl : l.Consistent) :
    (r.withOwn l).Consistent := by
  cases r with
  | plain _ => exact hl
  | layered parent _ => exact ⟨h.1, hl⟩

/-- The size is the number of the failures. -/
theorem size_eq_length (r : Result) : r.size = r.failures.length := by
  induction r with
  | plain l => rfl
  | layered parent l ih => rw [size, failures, List.length_append, ih]

theorem hasErrors_eq (r : Result) : r.hasErrors = !r.failures.isEmpty := by
  induction r with
  | plain l => rfl
  | layered parent l ih =>
    rw [hasErrors, failures, ih, Bool.or_comm]
    cases parent.failures <;> rfl

theorem hasErrorsOf_eq (r : Result) (id : Identifier) :
    r.hasErrorsOf id = !(r.errorsOf id).isEmpty := by
  induction r with
  | plain l => rfl
  | layered parent l ih =>
    rw [hasErrorsOf, errorsOf, ih, Bool.or_comm]
    cases parent.errorsOf id <;> rfl

/-- The failures found by element are those of the list, in their order there. -/
theorem Consistent.errorsOf_eq (h : r.Consistent) (id : Identifier) :
    r.errorsOf id = r.failures.filter (·.identifier = id) := by
  induction r with
  | plain l =>
    rw [errorsOf, failures, show l.index = _ from h, FailureIndex.find_ofList]
  | layered parent l ih =>
    rw [errorsOf, failures, ih h.1, show l.index = _ from h.2, FailureIndex.find_ofList,
      List.filter_append]

theorem Consistent.errorsFor_eq (h : r.Consistent) (id : Option Identifier) :
    r.errorsFor id = (Answers.ofFailures r.failures).errorsFor id := by
  rw [Answers.ofFailures]
  cases id with
  | none => simp [errorsFor]
  | some id => simp [errorsFor, h.errorsOf_eq]

theorem Consistent.hasErrorFor_eq (h : r.Consistent) (id : Option Identifier) :
    r.hasErrorFor id = (Answers.ofFailures r.failures).hasErrorFor id := by
  rw [Answers.ofFailures]
  cases id with
  | none => simp [hasErrorFor]
  | some id =>
    rw [hasErrorFor, hasErrorsOf_eq, h.errorsOf_eq, Bool.eq_iff_iff]
    simp

/-- The index over all layers is the index of all failures. -/
theorem Consistent.byIdentifier_eq (h : r.Consistent) :
    r.byIdentifier = FailureIndex.ofList r.failures := by
  induction r with
  | plain l => exact h
  | layered parent l ih =>
    rw [byIdentifier, failures, ih h.1, show l.index = _ from h.2, FailureIndex.merge_ofList]

/-- **A consistent result answers as its list of failures does.** -/
theorem Consistent.answers_eq (h : r.Consistent) : r.answers = Answers.ofFailures r.failures := by
  rw [answers, size_eq_length, hasErrors_eq, h.byIdentifier_eq, funext h.errorsFor_eq,
    funext h.hasErrorFor_eq]
  rfl

/-! ## Adding -/

@[simp] theorem own_withOwn (r : Result) (l : Ledger) : (r.withOwn l).own = l := by
  cases r <;> rfl

@[simp] theorem withOwn_own (r : Result) : r.withOwn r.own = r := by
  cases r <;> rfl

@[simp] theorem withOwn_withOwn (r : Result) (l l' : Ledger) :
    (r.withOwn l).withOwn l' = r.withOwn l' := by
  cases r <;> rfl

@[simp] theorem parent?_withOwn (r : Result) (l : Ledger) : (r.withOwn l).parent? = r.parent? := by
  cases r <;> rfl

theorem addAll_cons (r : Result) (f : Failure) (fs : List Failure) :
    r.addAll (f :: fs) = (r.add f).addAll fs := List.foldl_cons ..

/-- Failures added one after the other only touch the result's own ledger. -/
theorem addAll_eq_withOwn (r : Result) (fs : List Failure) :
    r.addAll fs = r.withOwn (fs.foldl Ledger.add r.own) := by
  induction fs generalizing r with
  | nil => exact (withOwn_own r).symm
  | cons f fs ih =>
    rw [addAll_cons, ih, add, own_withOwn, withOwn_withOwn, List.foldl_cons]

theorem addAll_append (r : Result) (fs gs : List Failure) :
    r.addAll (fs ++ gs) = (r.addAll fs).addAll gs := List.foldl_append

theorem failures_add (r : Result) (f : Failure) : (r.add f).failures = r.failures ++ [f] := by
  cases r with
  | plain l => rfl
  | layered parent l => exact (List.append_assoc ..).symm

/-- What is added comes after what was there. -/
theorem failures_addAll (r : Result) (fs : List Failure) :
    (r.addAll fs).failures = r.failures ++ fs := by
  induction fs generalizing r with
  | nil => exact (List.append_nil _).symm
  | cons f fs ih =>
    rw [addAll_cons, ih, failures_add, List.append_assoc, List.singleton_append]

@[simp] theorem parent?_addAll (r : Result) (fs : List Failure) :
    (r.addAll fs).parent? = r.parent? := by
  rw [addAll_eq_withOwn, parent?_withOwn]

theorem Consistent.add (h : r.Consistent) (f : Failure) : (r.add f).Consistent :=
  h.withOwn (h.own.add f)

/-- Adding keeps a result consistent. -/
theorem Consistent.addAll (h : r.Consistent) (fs : List Failure) : (r.addAll fs).Consistent := by
  induction fs generalizing r with
  | nil => exact h
  | cons f fs ih =>
    rw [addAll_cons]
    exact ih (h.add f)

theorem entries_addAll (r : Result) (fs : List Failure) :
    (r.addAll fs).own.entries = r.own.entries ++ fs := by
  induction fs generalizing r with
  | nil => exact (List.append_nil _).symm
  | cons f fs ih =>
    rw [addAll_cons, ih, Result.add, own_withOwn, Ledger.add, List.append_assoc,
      List.singleton_append]

/-- What is added to a scope is its own. -/
theorem scopedFailures?_addAll (r : Result) (fs : List Failure) :
    (r.addAll fs).scopedFailures? = r.scopedFailures?.map (· ++ fs) := by
  have hentries := r.entries_addAll fs
  rw [addAll_eq_withOwn] at hentries ⊢
  cases r with
  | plain l => rfl
  | layered parent l => exact congrArg some hentries

/-- A consistent result with failures added is known from its parent and its own failures. -/
theorem Consistent.addAll_eq (h : r.Consistent) (fs : List Failure) :
    r.addAll fs = r.withOwn (Ledger.ofEntries (r.own.entries ++ fs)) := by
  rw [← entries_addAll, ← (h.addAll fs).own.eq_ofEntries, addAll_eq_withOwn, own_withOwn]

/-! ## Replacing what was added -/

/-- The failures that the result sees and does not own. -/
def inherited : Result → List Failure
  | plain _ => []
  | layered parent _ => parent.failures

theorem failures_eq (r : Result) : r.failures = r.inherited ++ r.own.entries := by
  cases r <;> rfl

theorem inherited_addAll (r : Result) (fs : List Failure) :
    (r.addAll fs).inherited = r.inherited := by
  rw [addAll_eq_withOwn]
  cases r <;> rfl

theorem size_eq (r : Result) : r.size = r.inherited.length + r.own.entries.length := by
  rw [size_eq_length, failures_eq, List.length_append]

/-- A failure of its own is replaced in its own ledger, however the result is layered. -/
theorem replace_own (r : Result) {n : Nat} (hn : n < r.own.entries.length) (g : Failure) :
    r.replace ((r.inherited.length + n : Nat) : Int) g = (r.own.replace n g).map r.withOwn := by
  cases r with
  | plain l => rw [inherited, List.length_nil, Nat.zero_add]; rfl
  | layered parent l =>
    simp only [own] at hn
    have hplace : placeOf (layered parent l).size ((parent.failures.length + n : Nat) : Int) =
        ((parent.failures.length + n : Nat) : Int) := if_neg (by omega)
    have hown : (parent.failures.length : Int) ≤ ((parent.failures.length + n : Nat) : Int) ∧
        ((parent.failures.length + n : Nat) : Int) <
          ((parent.failures.length + l.entries.length : Nat) : Int) := by omega
    have hsub :
        ((parent.failures.length + n : Nat) : Int) - (parent.failures.length : Int) = n := by omega
    rw [replace, inherited, hplace, size, size_eq_length, if_pos hown, hsub]
    rfl

/-- A replacement that succeeds is one in the result's own ledger. -/
theorem replace_eq_ok {r' : Result} {index : Int} {g : Failure} (h : r.replace index g = .ok r') :
    ∃ n l', r.own.replace n g = .ok l' ∧ r' = r.withOwn l' := by
  cases r with
  | plain l =>
    rw [replace] at h
    rcases hl : l.replace index g with fault | l' <;> rw [hl] at h
    · cases h
    · exact ⟨index, l', hl, (Except.ok.inj h).symm⟩
  | layered parent l =>
    rw [replace] at h
    by_cases hplace : (parent.size : Int) ≤ placeOf (layered parent l).size index ∧
        placeOf (layered parent l).size index < (layered parent l).size
    · rw [if_pos hplace] at h
      rcases hl : l.replace (placeOf (layered parent l).size index - parent.size) g with
        fault | l' <;> rw [hl] at h
      · cases h
      · exact ⟨_, l', hl, (Except.ok.inj h).symm⟩
    · rw [if_neg hplace] at h
      cases h

/-- A replacement that succeeds keeps a result consistent. -/
theorem Consistent.replace {r' : Result} {index : Int} {g : Failure} (h : r.Consistent)
    (hr : r.replace index g = .ok r') : r'.Consistent := by
  obtain ⟨n, l', hl, rfl⟩ := replace_eq_ok hr
  exact h.withOwn (h.own.replace hl)

/-- **Replacing a failure that was added** is as if the other failure had been added in its place,
and fails if that is of another element. -/
theorem Consistent.replace_added (h : r.Consistent) (before after : List Failure) (f g : Failure) :
    (r.addAll (before ++ f :: after)).replace ((r.size + before.length : Nat) : Int) g =
      if g.identifier = f.identifier then .ok (r.addAll (before ++ g :: after))
      else .error (.replacementMismatch g.identifier f.identifier) := by
  -- counted from the start of the result's own failures, whatever it inherits
  have hplace : r.size + before.length =
      (r.addAll (before ++ f :: after)).inherited.length + (r.own.entries ++ before).length := by
    rw [size_eq, inherited_addAll, List.length_append, Nat.add_assoc]
  have hlt : (r.own.entries ++ before).length <
      (r.addAll (before ++ f :: after)).own.entries.length := by
    simp only [entries_addAll, List.length_append, List.length_cons]
    omega
  rw [hplace, replace_own _ hlt, h.addAll_eq, h.addAll_eq, own_withOwn, ← List.append_assoc,
    ← List.append_assoc, Ledger.replace_ofEntries (if_neg (by omega))]
  by_cases hid : g.identifier = f.identifier
  · rw [if_pos hid, if_pos hid, Except.map, withOwn_withOwn]
  · rw [if_neg hid, if_neg hid, Except.map]

end Result

end Verdict
