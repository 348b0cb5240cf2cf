import Verdict.Proofs.Value.Mapping
import Verdict.Yaml.Document

/-!
# What documents are made of

The keys of a mapping in a document are plain values, and no two of them mean the same, at any
depth: every document is keyed (`Document.keyed_of_read`), and so is the reader of documents
(`Document.isKeyed_reader`). The keys are plain since nothing but scalars is taken for a key, and
the moments that are written in documents have fixed offsets.
-/

namespace Verdict.Yaml

/-! ## Scalars -/

theorem isPlain_of_checkedTimestamp {parts : Date × Option (DayTime × Option Int)} {v : Value}
    (h : checkedTimestamp parts = .ok v) : v.isPlain = true := by
  obtain ⟨date, _ | ⟨time, offset⟩⟩ := parts
  · obtain ⟨d, -, rfl⟩ := exists_of_map_eq_ok h
    rfl
  · obtain ⟨offset', -, h⟩ := exists_of_bind_eq_ok h
    obtain ⟨date', -, h⟩ := exists_of_bind_eq_ok h
    obtain ⟨time', -, h⟩ := exists_of_bind_eq_ok h
    obtain rfl := Except.ok.inj h
    cases offset' <;> rfl

/-- A scalar of a document is a plain value, whatever it is written like. -/
theorem isPlain_of_value {kind : ScalarKind} {text : String} {v : Value}
    (h : kind.value text = .ok v) : v.isPlain = true := by
  cases kind with
  | null | text =>
    obtain rfl := Except.ok.inj h
    rfl
  | truth =>
    obtain ⟨b, -, rfl⟩ := exists_of_refusing_eq_ok h
    rfl
  | integer =>
    rw [ScalarKind.value] at h
    split at h
    next =>
      obtain ⟨i, -, rfl⟩ := exists_of_map_eq_ok h
      rfl
    next =>
      obtain ⟨i, -, rfl⟩ := exists_of_refusing_eq_ok h
      rfl
  | real =>
    rw [ScalarKind.value] at h
    split at h
    next =>
      obtain ⟨x, -, rfl⟩ := exists_of_map_eq_ok h
      rfl
    next =>
      obtain ⟨x, -, rfl⟩ := exists_of_refusing_eq_ok h
      rfl
  | timestamp =>
    obtain ⟨v, hmoment, rfl⟩ := exists_of_refusing_eq_ok h
    rw [momentOf] at hmoment
    split at hmoment
    next => exact isPlain_of_checkedTimestamp hmoment
    next => cases hmoment
  | merge | default | unknown => cases h

namespace Tree

theorem isPlain_of_scalarAt {level : Nat} {kind : ScalarKind} {text : String} {v : Value}
    (h : scalarAt level kind text = .ok v) : v.isPlain = true := by
  rw [scalarAt] at h
  split at h
  next hvalue =>
    obtain rfl := Except.ok.inj h
    exact isPlain_of_value hvalue
  next => cases h

/-- Only scalars are taken for keys. -/
theorem isPlain_of_keyAt {level : Nat} {t : Tree} {v : Value} (h : t.keyAt level = .ok v) :
    v.isPlain = true := by
  rw [keyAt.eq_def] at h
  split at h
  next =>
    obtain rfl := Except.ok.inj h
    rfl
  next => exact isPlain_of_scalarAt h
  next => cases h

/-! ## Collections -/

theorem Leveled.both_eq_ok {α β : Type} {a : Leveled α} {b : Leveled β} {x : α} {y : β}
    (h : Leveled.both a b = .ok (x, y)) : a = .ok x ∧ b = .ok y := by
  rw [Leveled.both.eq_def] at h
  split at h
  next =>
    obtain ⟨rfl, rfl⟩ := Prod.mk.inj (Except.ok.inj h)
    exact ⟨rfl, rfl⟩
  all_goals cases h

mutual

theorem keyed_valueAt {level : Nat} : ∀ {t : Tree} {v : Value}, t.valueAt level = .ok v → v.Keyed
  | scalar kind text, v, h => by
    rw [valueAt] at h
    exact .scalar (Value.isScalar_of_isPlain (isPlain_of_scalarAt h))
  | sequence items, v, h => by
    rw [valueAt] at h
    obtain ⟨vs, hvs, rfl⟩ := exists_of_map_eq_ok h
    exact .list (keyed_itemsAt hvs)
  | mapping entries, v, h => by
    rw [valueAt] at h
    obtain ⟨es, hes, rfl⟩ := exists_of_map_eq_ok h
    exact Value.keyed_ofEntries (keyed_entriesAt hes)
  | broken, v, h => by
    rw [valueAt] at h
    cases h

theorem keyed_itemsAt {level : Nat} : ∀ {items : List Tree} {vs : List Value},
    itemsAt level items = .ok vs → ∀ v ∈ vs, v.Keyed
  | [], vs, h => by
    rw [itemsAt] at h
    obtain rfl := Except.ok.inj h
    exact fun _ h => (List.not_mem_nil h).elim
  | item :: rest, vs, h => by
    rw [itemsAt] at h
    obtain ⟨⟨v, vs'⟩, hboth, rfl⟩ := exists_of_map_eq_ok h
    obtain ⟨hv, hvs⟩ := Leveled.both_eq_ok hboth
    exact List.forall_mem_cons.mpr ⟨keyed_valueAt hv, keyed_itemsAt hvs⟩

theorem keyed_entriesAt {level : Nat} : ∀ {entries : List (Tree × Tree)}
    {es : List (Value × Value)}, entriesAt level entries = .ok es →
    ∀ e ∈ es, e.1.isPlain = true ∧ e.2.Keyed
  | [], es, h => by
    rw [entriesAt] at h
    obtain rfl := Except.ok.inj h
    exact fun _ h => (List.not_mem_nil h).elim
  | (key, value) :: rest, es, h => by
    rw [entriesAt] at h
    obtain ⟨⟨⟨k, v⟩, es'⟩, hboth, rfl⟩ := exists_of_map_eq_ok h
    obtain ⟨hentry, hes⟩ := Leveled.both_eq_ok hboth
    obtain ⟨hk, hv⟩ := Leveled.both_eq_ok hentry
    exact List.forall_mem_cons.mpr ⟨⟨isPlain_of_keyAt hk, keyed_valueAt hv⟩, keyed_entriesAt hes⟩

end

end Tree

/-- **Documents are keyed.** -/
theorem Document.keyed_of_read {text : String} {v : Value} (h : Document.read text = .ok v) :
    v.Keyed := by
  rw [Document.read] at h
  by_cases hprintable : (!text.toList.all isPrintableChar) = true
  · rw [if_pos hprintable] at h
    cases h
  rw [if_neg hprintable] at h
  obtain ⟨tokens, -, h⟩ := exists_of_bind_eq_ok h
  obtain ⟨root?, -, h⟩ := exists_of_bind_eq_ok h
  split at h
  next =>
    obtain rfl := Except.ok.inj h
    exact .scalar rfl
  next node =>
    split at h
    next hvalue =>
      obtain rfl := Except.ok.inj h
      exact Tree.keyed_valueAt hvalue
    next => cases h

theorem Document.isKeyed_reader : Document.reader.IsKeyed := by
  intro content v h
  rw [Document.reader] at h
  split at h
  next => cases h
  split at h
  next hread =>
    obtain rfl := Except.ok.inj h
    exact Document.keyed_of_read hread
  next => cases h
  next => cases h

end Verdict.Yaml
