import Verdict.Proofs.Check.Judgement
import Verdict.Proofs.Value.Equality

/-!
# Duplicates

A collection is searched for duplicates with a list of the parts that were seen: a part that is
among them ends the search. The search finds something exactly if two parts in different places
mean the same (`repeatsAny_eq_false_iff`, with nothing seen). To mean the same is symmetric, so the
order of the parts is of no matter (`Value.repeats_of_perm`), and the keys of a mapping are apart,
so that no mapping is refused. `CollectionCheck.noDuplicates_exact` says so of the check.
-/

namespace Verdict

namespace Value

/-- What a list, a tuple or a text is made of, in the order of the places. -/
inductive Sequence : Value → List Value → Prop
  | list (items : List Value) : Sequence (.list items) items
  | tuple (items : List Value) : Sequence (.tuple items) items
  | text (s : String) : Sequence (.text s) (s.toList.map fun c => .text (String.ofList [c]))

/-- The parts in two places mean the same. -/
def Repeats (items : List Value) : Prop :=
  ∃ (i j : Nat) (a b : Value), i < j ∧ items[i]? = some a ∧ items[j]? = some b ∧ a.equals b = true

variable {v : Value} {items others : List Value}

theorem Sequence.parts? (h : v.Sequence items) : v.parts? = .ok items := by
  cases h <;> rfl

theorem isNull_of_parts? (h : v.parts? = .ok items) : v.isNull = false := by
  cases v with
  | null => cases h
  | _ => rfl

/-- Nothing repeats if each part means something else than all before it. -/
theorem not_repeats_iff :
    ¬Repeats items ↔ items.Pairwise fun earlier later => later.equals earlier = false := by
  rw [List.pairwise_iff_getElem]
  constructor
  · intro h i j hi hj hlt
    refine Bool.eq_false_iff.mpr fun heq => h ⟨i, j, items[i], items[j], hlt, ?_, ?_, ?_⟩
    · exact List.getElem?_eq_getElem hi
    · exact List.getElem?_eq_getElem hj
    · rw [equals_comm, heq]
  · rintro h ⟨i, j, a, b, hlt, ha, hb, heq⟩
    obtain ⟨hi, rfl⟩ := List.getElem?_eq_some_iff.mp ha
    obtain ⟨hj, rfl⟩ := List.getElem?_eq_some_iff.mp hb
    rw [equals_comm, h i j hi hj hlt] at heq
    cases heq

/-- In whatever order the parts stand, they repeat or not. -/
theorem repeats_of_perm (h : items.Perm others) : Repeats items ↔ Repeats others := by
  rw [← not_iff_not, not_repeats_iff, not_repeats_iff]
  exact h.pairwise_iff fun hne => by rw [equals_comm, hne]

theorem among_append (v : Value) (xs ys : List Value) :
    v.among (xs ++ ys) = (v.among xs || v.among ys) := List.any_append

theorem among_singleton (v w : Value) : v.among [w] = v.equals w := by
  rw [among, List.any_cons, List.any_nil, Bool.or_false]

end Value

/-- The search ends without a find if no part is among those seen before, nor among the parts before
it. -/
theorem repeatsAny_eq_false_iff {seen items : List Value} :
    repeatsAny seen items = false ↔ (∀ v ∈ items, v.among seen = false) ∧
      items.Pairwise fun earlier later => later.equals earlier = false := by
  -- the parts that were seen grow along the search, so the induction is for any of them
  induction items generalizing seen with
  | nil => simp [repeatsAny]
  | cons first rest ih =>
    rw [repeatsAny, Bool.or_eq_false_iff, ih, List.forall_mem_cons, List.pairwise_cons]
    simp only [Value.among_append, Value.among_singleton, Bool.or_eq_false_iff]
    constructor
    · rintro ⟨hfirst, hrest, hapart⟩
      exact ⟨⟨hfirst, fun v hv => (hrest v hv).1⟩, fun v hv => (hrest v hv).2, hapart⟩
    · rintro ⟨⟨hfirst, hseen⟩, hnew, hapart⟩
      exact ⟨hfirst, fun v hv => ⟨hseen v hv, hnew v hv⟩, hapart⟩

theorem repeatsAny_nil_iff {items : List Value} :
    repeatsAny [] items = true ↔ Value.Repeats items := by
  rw [← not_iff_not, Bool.not_eq_true, Value.not_repeats_iff, repeatsAny_eq_false_iff]
  exact and_iff_right fun _ _ => rfl

namespace CollectionCheck

variable {c : Check} {v : Value} {items others : List Value}

theorem answer_noDuplicates (h : noDuplicates.build = .ok c) (hparts : v.parts? = .ok items) :
    c.answer v = .ok (!repeatsAny [] items) := by
  obtain rfl := Except.ok.inj h
  rw [Check.answer_of_isNull_eq_false (Value.isNull_of_parts? hparts)]
  simp only [Check.flag, hparts]
  rfl

theorem refuses_iff_repeats (h : noDuplicates.build = .ok c) (hparts : v.parts? = .ok items) :
    c.Refuses v ↔ Value.Repeats items := by
  rw [((built_of_build h).fit rfl).refuses_iff, answer_noDuplicates h hparts, Except.ok.injEq,
    Bool.not_eq_false', repeatsAny_nil_iff]

theorem noDuplicates_decides (h : noDuplicates.build = .ok c) (hparts : v.parts? = .ok items) :
    c.Decides v :=
  ((built_of_build h).fit rfl).decides_of_answer (answer_noDuplicates h hparts)

/-- A mapping whose keys are apart is admitted. -/
theorem admits_mapping (h : noDuplicates.build = .ok c) {entries : List (Value × Value)}
    (hkeys : entries.Pairwise fun e e' => e.1.equals e'.1 = false) :
    c.Admits (.mapping entries) := by
  have hparts : (Value.mapping entries).parts? = .ok (entries.map (·.1)) := rfl
  refine (noDuplicates_decides h hparts).resolve_right fun hrefuses => ?_
  refine Value.not_repeats_iff.mpr ?_ ((refuses_iff_repeats h hparts).mp hrefuses)
  refine List.pairwise_map.mpr (hkeys.imp fun hne => ?_)
  rw [Value.equals_comm, hne]

/-- **The check for duplicates is exact.** It always decides on a list, a tuple and a text, and
refuses it exactly if the parts in two different places mean the same, whatever these are. All
sequences of the same parts are refused or none is, in whatever order they have them. Mappings are
admitted, since no two keys mean the same: neither of one that is so to begin with, nor of one that
is written from any entries. -/
theorem noDuplicates_exact : ∃ c, (Request.collection .noDuplicates).build = .ok c ∧
    (∀ (v : Value) (items : List Value), v.Sequence items → c.Decides v ∧
      (c.Refuses v ↔ ∃ (i j : Nat) (a b : Value), i < j ∧ items[i]? = some a ∧
        items[j]? = some b ∧ a.equals b = true) ∧
      ∀ (w : Value) (others : List Value), w.Sequence others → items.Perm others →
        (c.Refuses v ↔ c.Refuses w)) ∧
    (∀ entries : List (Value × Value), (entries.Pairwise fun e e' => e.1.equals e'.1 = false) →
      c.Admits (.mapping entries)) ∧
    ∀ entries, c.Admits (.ofEntries entries) := by
  obtain ⟨c, h⟩ : ∃ c, noDuplicates.build = .ok c := ⟨_, rfl⟩
  refine ⟨c, h, fun v items hv => ⟨?_, ?_, fun w others hw hperm => ?_⟩, fun _ => admits_mapping h,
    fun entries => admits_mapping h (Value.pairwise_written entries)⟩
  · exact noDuplicates_decides h hv.parts?
  · exact refuses_iff_repeats h hv.parts?
  · rw [refuses_iff_repeats h hv.parts?, refuses_iff_repeats h hw.parts?,
      Value.repeats_of_perm hperm]

/-- The truth value and the number one mean the same, also within a list within a tuple, and on
whichever side they stand; the undefined number and a list that holds it do not mean the same as
themselves, and neither do a list and a tuple of the same parts. -/
theorem noDuplicates_exact_mixed :
    let truth : Value := .tuple [.list [.bool true]]
    let one : Value := .tuple [.list [.float (.ofInt 1)]]
    let undefined : Value := .float .nan
    ∃ c, (Request.collection .noDuplicates).build = .ok c ∧
      c.Refuses (.list [truth, undefined, one]) ∧ c.Refuses (.tuple [undefined, one, truth]) ∧
      c.Refuses (.text "abca") ∧
      c.Admits (.list [undefined, undefined, .list [undefined], .list [undefined], .tuple []]) ∧
      c.Admits (.list [.list [.int 1], .tuple [.int 1]]) ∧
      c.Admits (.mapping [(.int 1, .null), (.int 2, .null)]) ∧
      c.Admits (.ofEntries [(.int 1, .null), (.bool true, .null)]) := by
  intro truth one undefined
  obtain ⟨c, h, hsequences, hmappings, hwritten⟩ := noDuplicates_exact
  have hadmits (items : List Value)
      (hapart : items.Pairwise fun earlier later => later.equals earlier = false) :
      c.Admits (.list items) := by
    obtain ⟨hdecides, hrefuses, -⟩ := hsequences _ _ (.list items)
    exact hdecides.resolve_right fun h => Value.not_repeats_iff.mpr hapart (hrefuses.mp h)
  obtain ⟨-, hfound, hordered⟩ := hsequences _ _ (.list [truth, undefined, one])
  have hrefuses := hfound.mpr ⟨0, 2, truth, one, by decide, rfl, rfl, by decide +kernel⟩
  have hperm : ([truth] ++ [undefined, one]).Perm ([undefined, one] ++ [truth]) :=
    List.perm_append_comm
  refine ⟨c, h, hrefuses, (hordered _ _ (.tuple _) hperm).mp hrefuses, ?_,
    hadmits _ (by decide +kernel), hadmits _ (by decide +kernel), hmappings _ (by decide +kernel),
    hwritten _⟩
  obtain ⟨-, hfound, -⟩ := hsequences _ _ (.text "abca")
  exact hfound.mpr ⟨0, 3, .text "a", .text "a", by decide, rfl, rfl, rfl⟩

end CollectionCheck

end Verdict
