import Mathlib.Data.List.Induction
import Mathlib.Data.List.Nodup
import Verdict.Result

/-!
# The index of a list of failures

`FailureIndex.ofList` files failures by element. Its keys are the elements in order of first
appearance (`keys_ofList`), and under each key stand the failures of that element in order
(`find_ofList`); with distinct keys that is all there is to an index (`eq_map_find`).

From this follow the two facts that the results need: replacing a failure in the list is adjusting
one entry of the index (`adjust_ofList`), and merging the indices of two lists is indexing one list
after the other (`merge_ofList`).
-/

namespace Verdict

namespace FailureIndex

/-- The elements in the index, in order. -/
def keys (index : FailureIndex) : List Identifier := index.map (·.1)

@[simp] theorem keys_cons (e : Identifier × List Failure) (rest : FailureIndex) :
    keys (e :: rest) = e.1 :: keys rest := rfl

/-- With distinct keys, an index is its keys with what is found under them. -/
theorem eq_map_find {index : FailureIndex} (h : index.keys.Nodup) :
    index = index.keys.map fun id => (id, index.find id) := by
  induction index with
  | nil => rfl
  | cons e rest ih =>
    obtain ⟨i, fs⟩ := e
    rw [keys_cons, List.nodup_cons] at h
    have hrest : ∀ id ∈ keys rest, find id ((i, fs) :: rest) = find id rest := by
      intro id hid
      rw [find, if_neg]
      rintro rfl
      exact h.1 hid
    rw [keys_cons, List.map_cons, find, if_pos rfl]
    refine congrArg _ ((ih h.2).trans (List.map_congr_left fun id hid => ?_))
    rw [hrest id hid]

/-- Indices with the same distinct keys and the same failures under each are the same. -/
theorem ext_find {index other : FailureIndex} (hk : index.keys = other.keys)
    (hn : index.keys.Nodup) (hf : ∀ id, index.find id = other.find id) : index = other := by
  calc
    index = index.keys.map fun id => (id, index.find id) := eq_map_find hn
    _ = other.keys.map fun id => (id, other.find id) := by
      rw [hk]
      exact List.map_congr_left fun id _ => by rw [hf id]
    _ = other := (eq_map_find (hk ▸ hn)).symm

/-! ## Extending -/

/-- Extending adds the element at the end of the keys if it is new. -/
theorem keys_extend (id : Identifier) (more : List Failure) (index : FailureIndex) :
    (index.extend id more).keys = if id ∈ index.keys then index.keys else index.keys ++ [id] := by
  induction index with
  | nil => rfl
  | cons e rest ih =>
    obtain ⟨i, fs⟩ := e
    by_cases h : i = id
    · subst h
      simp [extend]
    · simp only [extend, if_neg h, keys_cons, ih, List.mem_cons, Ne.symm h, false_or]
      by_cases hid : id ∈ keys rest
      · rw [if_pos hid, if_pos hid]
      · rw [if_neg hid, if_neg hid, List.cons_append]

theorem mem_keys_extend {id other : Identifier} {more : List Failure} {index : FailureIndex} :
    other ∈ (index.extend id more).keys ↔ other ∈ index.keys ∨ other = id := by
  rw [keys_extend]
  by_cases h : id ∈ index.keys
  · rw [if_pos h]
    refine ⟨Or.inl, ?_⟩
    rintro (ho | rfl)
    · exact ho
    · exact h
  · rw [if_neg h, List.mem_append, List.mem_singleton]

/-- Extending keeps the keys distinct. -/
theorem nodup_keys_extend {index : FailureIndex} (h : index.keys.Nodup) (id : Identifier)
    (more : List Failure) : (index.extend id more).keys.Nodup := by
  rw [keys_extend]
  by_cases hid : id ∈ index.keys
  · rw [if_pos hid]
    exact h
  · rw [if_neg hid]
    exact List.nodup_append'.mpr
      ⟨h, List.nodup_singleton id, List.disjoint_singleton.mpr hid⟩

/-- Extending adds failures under its element and changes nothing under another. -/
theorem find_extend (id other : Identifier) (more : List Failure) (index : FailureIndex) :
    (index.extend id more).find other =
      if id = other then index.find other ++ more else index.find other := by
  induction index with
  | nil => rfl
  | cons e rest ih =>
    obtain ⟨i, fs⟩ := e
    by_cases h : i = id
    · subst h
      by_cases ho : i = other <;> simp [extend, find, ho]
    · by_cases ho : i = other
      · subst ho
        simp [extend, find, h, Ne.symm h]
      · simp [extend, find, h, ho, ih]

/-- Extending one element twice is extending it once by both. -/
theorem extend_extend_self (id : Identifier) (first second : List Failure) (index : FailureIndex) :
    (index.extend id first).extend id second = index.extend id (first ++ second) := by
  induction index with
  | nil => simp [extend]
  | cons e rest ih =>
    obtain ⟨i, fs⟩ := e
    by_cases h : i = id
    · simp [extend, h, List.append_assoc]
    · simp [extend, h, ih]

/-- Extensions of two elements commute once the first of them is in the index. -/
theorem extend_comm {id other : Identifier} (h : id ≠ other) (first second : List Failure)
    {index : FailureIndex} (hk : id ∈ index.keys) :
    (index.extend other second).extend id first =
      (index.extend id first).extend other second := by
  induction index with
  | nil => exact absurd hk List.not_mem_nil
  | cons e rest ih =>
    obtain ⟨i, fs⟩ := e
    by_cases hi : i = id
    · subst hi
      simp [extend, h]
    · have hr : id ∈ keys rest := (List.mem_cons.mp hk).resolve_left (Ne.symm hi)
      by_cases ho : i = other
      · simp [extend, ho, Ne.symm h]
      · simp [extend, hi, ho, ih hr]

/-! ## Adjusting -/

/-- Adjusting changes no key. -/
theorem keys_adjust (id : Identifier) (change : List Failure → List Failure)
    (index : FailureIndex) : (index.adjust id change).keys = index.keys := by
  induction index with
  | nil => rfl
  | cons e rest ih =>
    obtain ⟨i, fs⟩ := e
    by_cases h : i = id <;> simp [adjust, h, ih]

/-- Adjusting changes what is found under its element and nothing else. An element without failures
has to stay so. -/
theorem find_adjust {change : List Failure → List Failure} (hc : change [] = [])
    (id other : Identifier) (index : FailureIndex) :
    (index.adjust id change).find other =
      if id = other then change (index.find other) else index.find other := by
  induction index with
  | nil => by_cases h : id = other <;> simp [adjust, find, h, hc]
  | cons e rest ih =>
    obtain ⟨i, fs⟩ := e
    by_cases h : i = id
    · subst h
      by_cases ho : i = other <;> simp [adjust, find, ho]
    · by_cases ho : i = other
      · subst ho
        simp [adjust, find, h, Ne.symm h]
      · simp [adjust, find, h, ho, ih]

/-! ## The index of a list -/

/-- Indexing one failure more is extending the index. -/
theorem ofList_concat (fs : List Failure) (f : Failure) :
    ofList (fs ++ [f]) = (ofList fs).extend f.identifier [f] := List.foldl_concat ..

/-- The keys are the elements in order of first appearance. -/
theorem keys_ofList (fs : List Failure) :
    (ofList fs).keys = (fs.map (·.identifier)).eraseDups := by
  induction fs using List.reverseRecOn with
  | nil => rfl
  | append_singleton fs f ih =>
    rw [ofList_concat, keys_extend, ih, List.map_append, List.map_singleton,
      List.eraseDups_append]
    generalize fs.map (·.identifier) = ids
    by_cases h : f.identifier ∈ ids
    · rw [if_pos (List.mem_eraseDups.mpr h)]
      simp [List.removeAll, h]
    · rw [if_neg (mt List.mem_eraseDups.mp h)]
      simp [List.removeAll, h, List.eraseDups_cons]

/-- No element is a key twice. -/
theorem nodup_keys_ofList (fs : List Failure) : (ofList fs).keys.Nodup := by
  induction fs using List.reverseRecOn with
  | nil => exact List.nodup_nil
  | append_singleton fs f ih =>
    rw [ofList_concat]
    exact nodup_keys_extend ih f.identifier [f]

/-- Under an element stand its failures in order. -/
theorem find_ofList (id : Identifier) (fs : List Failure) :
    (ofList fs).find id = fs.filter (·.identifier = id) := by
  induction fs using List.reverseRecOn with
  | nil => rfl
  | append_singleton fs f ih =>
    rw [ofList_concat, find_extend, ih, List.filter_append]
    by_cases h : f.identifier = id
    · rw [if_pos h, List.filter_singleton, decide_eq_true h, cond_true]
    · rw [if_neg h, List.filter_singleton, decide_eq_false h, cond_false, List.append_nil]

/-- Putting a failure in the place of another of the same element changes one entry of the index:
there, it takes the place after the failures that stand before it in the list. -/
theorem adjust_ofList (before after : List Failure) {f g : Failure}
    (h : g.identifier = f.identifier) :
    (ofList (before ++ f :: after)).adjust f.identifier
        (·.set (before.countP (·.identifier = f.identifier)) g) =
      ofList (before ++ g :: after) := by
  refine ext_find ?_ ?_ fun id => ?_
  · rw [keys_adjust, keys_ofList, keys_ofList, List.map_append, List.map_append, List.map_cons,
      List.map_cons, h]
  · rw [keys_adjust]
    exact nodup_keys_ofList _
  · rw [find_adjust List.set_nil, find_ofList, find_ofList, List.filter_append,
      List.filter_append]
    by_cases hid : f.identifier = id
    · subst hid
      simp only [List.filter_cons, h, decide_true, if_true]
      rw [List.countP_eq_length_filter, List.set_append_right _ _ (Nat.le_refl _), Nat.sub_self,
        List.set_cons_zero]
    · simp only [List.filter_cons, h, hid, decide_false, if_false, Bool.false_eq_true]

/-! ## Merging -/

theorem merge_cons (index : FailureIndex) (e : Identifier × List Failure) (rest : FailureIndex) :
    index.merge (e :: rest) = (index.extend e.1 e.2).merge rest := rfl

/-- Extending an element that is in the first index and not in the second may wait. -/
theorem merge_extend_left {id : Identifier} {index other : FailureIndex} (more : List Failure)
    (hk : id ∈ index.keys) (ho : id ∉ other.keys) :
    (index.extend id more).merge other = (index.merge other).extend id more := by
  induction other generalizing index with
  | nil => rfl
  | cons e rest ih =>
    obtain ⟨i, fs⟩ := e
    simp only [keys_cons, List.mem_cons, not_or] at ho
    rw [merge_cons, merge_cons, ← extend_comm ho.1 more fs hk]
    exact ih (mem_keys_extend.mpr (Or.inl hk)) ho.2

/-- Extending the second of two indices, with distinct keys, is extending both together. -/
theorem merge_extend_right {index other : FailureIndex} (hn : other.keys.Nodup)
    (id : Identifier) (more : List Failure) :
    index.merge (other.extend id more) = (index.merge other).extend id more := by
  induction other generalizing index with
  | nil => rfl
  | cons e rest ih =>
    obtain ⟨i, fs⟩ := e
    rw [keys_cons, List.nodup_cons] at hn
    by_cases h : i = id
    · -- the rest of the second index does not hold the element, so the extension may wait
      subst h
      rw [extend, if_pos rfl, merge_cons, merge_cons, ← extend_extend_self]
      exact merge_extend_left more (mem_keys_extend.mpr (Or.inr rfl)) hn.1
    · rw [extend, if_neg h, merge_cons, merge_cons]
      exact ih hn.2

/-- Merging the indices of two lists is indexing one list after the other. -/
theorem merge_ofList (fs gs : List Failure) :
    (ofList fs).merge (ofList gs) = ofList (fs ++ gs) := by
  induction gs using List.reverseRecOn with
  | nil => rw [List.append_nil]; rfl
  | append_singleton gs g ih =>
    rw [ofList_concat, merge_extend_right (nodup_keys_ofList gs), ih, ← List.append_assoc,
      ofList_concat]

end FailureIndex

end Verdict
