import Verdict.Files
import Verdict.Proofs.Value.Display
import Verdict.Proofs.Value.Equality

/-!
# Keys of mappings

A mapping that is written entry by entry has plain values as its keys, if nothing else is written,
and no two of its keys mean the same: a later entry takes the place of an earlier one with the same
key. A value is `Keyed` if all mappings in it are like this, and a reader `IsKeyed` if it makes
nothing but such values.
-/

namespace Verdict

namespace Value

/-- The keys are plain values, and no two of them mean the same. -/
structure DistinctKeys (entries : List (Value × Value)) : Prop where
  isPlain : ∀ e ∈ entries, e.1.isPlain = true
  distinct : entries.Pairwise fun e e' => e.1.equals e'.1 = false

/-- All mappings in the value have distinct keys. -/
inductive Keyed : Value → Prop
  | scalar {v : Value} (h : v.isScalar = true) : Keyed v
  | list {items : List Value} (h : ∀ v ∈ items, Keyed v) : Keyed (.list items)
  | mapping {entries : List (Value × Value)} (hkeys : DistinctKeys entries)
    (h : ∀ e ∈ entries, Keyed e.2) : Keyed (.mapping entries)

theorem distinctKeys_nil : DistinctKeys [] := ⟨fun _ h => (List.not_mem_nil h).elim, .nil⟩

/-- A write under a plain value keeps keys distinct. -/
theorem DistinctKeys.insert {entries : List (Value × Value)} (h : DistinctKeys entries)
    {key : Value} (hkey : key.isPlain = true) (value : Value) :
    DistinctKeys (insert key value entries) where
  isPlain e he := by
    rcases mem_insert he with hold | ⟨-, rfl | ⟨e', he', hsame⟩⟩
    · exact h.isPlain e hold
    · exact hkey
    · exact hsame ▸ h.isPlain e' he'
  distinct := pairwise_insert h.distinct key value

theorem mem_of_lookup? {key v : Value} {entries : List (Value × Value)}
    (h : lookup? key entries = some v) : ∃ e ∈ entries, e.1.equals key = true ∧ e.2 = v := by
  induction entries with
  | nil => cases h
  | cons first rest ih =>
    rw [lookup?] at h
    split at h
    next hequals =>
      exact ⟨first, List.mem_cons_self, hequals, Option.some.inj h⟩
    next =>
      obtain ⟨e, he, hfound⟩ := ih h
      exact ⟨e, List.mem_cons_of_mem _ he, hfound⟩

theorem Keyed.distinctKeys {entries : List (Value × Value)} (h : Keyed (.mapping entries)) :
    DistinctKeys entries := by
  cases h with
  | scalar h => cases h
  | mapping hkeys _ => exact hkeys

/-- What a mapping in a keyed value has under a key is keyed. -/
theorem Keyed.lookup? {entries : List (Value × Value)} (h : Keyed (.mapping entries))
    {key v : Value} (hlookup : Value.lookup? key entries = some v) : Keyed v := by
  obtain ⟨e, he, -, rfl⟩ := mem_of_lookup? hlookup
  cases h with
  | scalar h => cases h
  | mapping _ h => exact h e he

/-- Entries that are written one after the other make a keyed mapping. -/
theorem keyed_ofEntries {entries : List (Value × Value)}
    (h : ∀ e ∈ entries, e.1.isPlain = true ∧ Keyed e.2) : Keyed (ofEntries entries) := by
  have hwritten (written : List (Value × Value)) (hkeys : DistinctKeys written)
      (hvalues : ∀ e ∈ written, Keyed e.2) :
      Keyed (.mapping (entries.foldl (fun written e => insert e.1 e.2 written) written)) := by
    induction entries generalizing written with
    | nil => exact .mapping hkeys hvalues
    | cons e rest ih =>
      obtain ⟨⟨hkey, hvalue⟩, hrest⟩ := List.forall_mem_cons.mp h
      refine ih hrest _ (hkeys.insert hkey e.2) fun e' he' => ?_
      rcases mem_insert he' with hold | ⟨heq, -⟩
      · exact hvalues e' hold
      · exact heq ▸ hvalue
  exact hwritten [] distinctKeys_nil fun _ h => (List.not_mem_nil h).elim

end Value

/-- All documents of the reader are keyed. -/
def DocumentReader.IsKeyed (reader : DocumentReader) : Prop :=
  ∀ content v, reader content = .ok v → v.Keyed

end Verdict
