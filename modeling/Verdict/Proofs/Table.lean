import Mathlib.Data.List.Induction
import Mathlib.Data.List.Nodup
import Mathlib.Data.List.Perm.Subperm
import Verdict.Table

/-!
# Tables after many writes

Entries that are written over a table one after the other are read as the last of them
(`get?_overlay`); under a name that none of them has, the table reads as before. The names of the
entries and the order in which they come say nothing else about what is read. Writing never makes a
name stand twice, so a table that was written has one entry under each name (`nodup_keys_overlay`),
the last of them and the first alike. What is written into an empty table stands there as it is
unless a name stands twice (`overlay_nil_eq_iff`).

Of two writes under one name only the second is left, and writes under two names can be exchanged,
but for the order in which new names come to stand. `write_rounds_perm` puts this together for two
rounds of writes, each of which may leave a name out.

A table `without` some names does not show writes under these, and keeps all there is to read under
the others.
-/

namespace Verdict.Table

variable {α : Type}

/-- The last of several entries under a name. -/
def last? (name : String) : Table α → Option α
  | [] => none
  | (n, a) :: rest => (last? name rest).or (if n = name then some a else none)

theorem last?_append (name : String) (t u : Table α) :
    last? name (t ++ u) = (last? name u).or (last? name t) := by
  induction t with
  | nil => exact (Option.or_none ..).symm
  | cons e rest ih =>
    rw [List.cons_append, last?, last?, ih, Option.or_assoc]

theorem overlay_cons (t : Table α) (e : String × α) (rest : Table α) :
    t.overlay (e :: rest) = (t.set e.1 e.2).overlay rest := rfl

theorem overlay_append (t first second : Table α) :
    t.overlay (first ++ second) = (t.overlay first).overlay second := List.foldl_append

/-- **The last write wins**: a table that entries were written over reads as the last of them, and
as before where there is none. -/
theorem get?_overlay (t entries : Table α) (name : String) :
    get? name (t.overlay entries) = (last? name entries).or (get? name t) := by
  induction entries generalizing t with
  | nil => rfl
  | cons e rest ih =>
    rw [overlay_cons, ih, last?, Option.or_assoc, get?_set]
    by_cases h : e.1 = name
    · rw [if_pos h, if_pos h, Option.some_or]
    · rw [if_neg h, if_neg h, Option.none_or]

theorem last?_eq_none {t : Table α} {name : String} (h : name ∉ t.keys) : last? name t = none := by
  induction t with
  | nil => rfl
  | cons e rest ih =>
    obtain ⟨n, a⟩ := e
    obtain ⟨hn, hrest⟩ := not_or.mp (mt List.mem_cons.mpr h)
    rw [last?, ih hrest, if_neg (Ne.symm hn), Option.none_or]

/-- Writing one entry under many names is writing these entries. -/
theorem foldl_set (t : Table α) (names : List String) (a : α) :
    names.foldl (fun t name => t.set name a) t = t.overlay (names.map fun name => (name, a)) := by
  rw [overlay, List.foldl_map]

/-- One entry that is written under many names is read under each of them. -/
theorem get?_foldl_set (t : Table α) (names : List String) (a : α) (name : String) :
    get? name (names.foldl (fun t n => t.set n a) t) =
      if name ∈ names then some a else get? name t := by
  induction names generalizing t with
  | nil => rfl
  | cons n rest ih =>
    rw [List.foldl_cons, ih, get?_set]
    by_cases hrest : name ∈ rest
    · rw [if_pos hrest, if_pos (List.mem_cons_of_mem _ hrest)]
    · by_cases hn : n = name
      · rw [if_neg hrest, if_pos hn, if_pos (List.mem_cons.mpr (.inl hn.symm))]
      · have hnot : name ∉ n :: rest := by
          intro hmem
          rcases List.mem_cons.mp hmem with heq | hin
          · exact hn heq.symm
          · exact hrest hin
        rw [if_neg hrest, if_neg hn, if_neg hnot]

theorem mem_of_get? {t : Table α} {name : String} {a : α} (h : get? name t = some a) :
    (name, a) ∈ t := by
  induction t with
  | nil => cases h
  | cons e rest ih =>
    obtain ⟨n, b⟩ := e
    rw [get?] at h
    split at h
    next heq =>
      obtain rfl := Option.some.inj h
      rw [heq]
      exact List.mem_cons_self
    next => exact List.mem_cons_of_mem _ (ih h)

/-! ## Names -/

theorem mem_keys_set {t : Table α} {name other : String} {a : α} :
    other ∈ (t.set name a).keys ↔ other ∈ t.keys ∨ other = name := by
  rw [keys_set]
  by_cases h : name ∈ t.keys
  · rw [if_pos h]
    refine ⟨Or.inl, ?_⟩
    rintro (hmem | rfl)
    · exact hmem
    · exact h
  · rw [if_neg h, List.mem_append, List.mem_singleton]

theorem mem_keys_overlay {t entries : Table α} {name : String} :
    name ∈ (t.overlay entries).keys ↔ name ∈ t.keys ∨ name ∈ entries.keys := by
  induction entries generalizing t with
  | nil => exact (or_iff_left List.not_mem_nil).symm
  | cons e rest ih =>
    rw [overlay_cons, ih, mem_keys_set, or_assoc]
    exact or_congr_right List.mem_cons.symm

/-- The names that are written over a table come behind those that are there. -/
theorem keys_prefix_overlay (t entries : Table α) : t.keys <+: (t.overlay entries).keys := by
  induction entries generalizing t with
  | nil => exact List.prefix_rfl
  | cons e rest ih =>
    refine List.IsPrefix.trans ?_ (ih (t.set e.1 e.2))
    rw [keys_set]
    split
    next => exact List.prefix_rfl
    next => exact List.prefix_append ..

theorem nodup_keys_set {t : Table α} (h : t.keys.Nodup) (name : String) (a : α) :
    (t.set name a).keys.Nodup := by
  rw [keys_set]
  by_cases hmem : name ∈ t.keys
  · rw [if_pos hmem]
    exact h
  · rw [if_neg hmem]
    exact List.nodup_append'.mpr
      ⟨h, List.nodup_singleton name, List.disjoint_singleton.mpr hmem⟩

/-- Writing entries over a table puts no name into it twice. -/
theorem nodup_keys_overlay {t : Table α} (h : t.keys.Nodup) (entries : Table α) :
    (t.overlay entries).keys.Nodup := by
  induction entries generalizing t with
  | nil => exact h
  | cons e rest ih => exact ih (nodup_keys_set h e.1 e.2)

/-- Where no name stands twice, the last entry under a name is the only one. -/
theorem last?_eq_get? {t : Table α} (h : t.keys.Nodup) (name : String) :
    last? name t = get? name t := by
  induction t with
  | nil => rfl
  | cons e rest ih =>
    obtain ⟨n, a⟩ := e
    obtain ⟨hn, hrest⟩ := List.nodup_cons.mp h
    rw [last?, ih hrest, get?]
    by_cases heq : n = name
    · -- the rest has no entry of the name
      have hnone : get? name rest = none := by
        rw [Option.eq_none_iff_forall_ne_some]
        rintro b hb
        exact hn (List.mem_map.mpr ⟨(name, b), mem_of_get? hb, heq.symm⟩)
      rw [if_pos heq, if_pos heq, hnone, Option.none_or]
    · rw [if_neg heq, if_neg heq, Option.or_none]

theorem exists_get?_of_mem_keys {t : Table α} {name : String} (h : name ∈ t.keys) :
    ∃ a, get? name t = some a := by
  induction t with
  | nil => cases h
  | cons e rest ih =>
    obtain ⟨n, a⟩ := e
    rw [get?]
    by_cases heq : n = name
    · exact ⟨a, if_pos heq⟩
    · rw [if_neg heq]
      exact ih ((List.mem_cons.mp h).resolve_left (Ne.symm heq))

theorem has_iff_mem_keys {t : Table α} {name : String} : t.has name = true ↔ name ∈ t.keys := by
  rw [has, Option.isSome_iff_exists]
  refine ⟨?_, exists_get?_of_mem_keys⟩
  rintro ⟨a, ha⟩
  exact List.mem_map.mpr ⟨(name, a), mem_of_get? ha, rfl⟩

/-- What holds of every entry of a table and of the one that is written holds of all entries
afterwards. -/
theorem forall_mem_set {P : α → Prop} {t : Table α} (h : ∀ e ∈ t, P e.2) (name : String) {a : α}
    (ha : P a) : ∀ e ∈ t.set name a, P e.2 := by
  induction t with
  | nil => exact List.forall_mem_singleton.mpr ha
  | cons e rest ih =>
    obtain ⟨hhead, hrest⟩ := List.forall_mem_cons.mp h
    obtain ⟨n, b⟩ := e
    rw [set]
    by_cases heq : n = name
    · rw [if_pos heq]
      exact List.forall_mem_cons.mpr ⟨ha, hrest⟩
    · rw [if_neg heq]
      exact List.forall_mem_cons.mpr ⟨hhead, ih hrest⟩

theorem forall_mem_overlay {P : α → Prop} {t entries : Table α} (h : ∀ e ∈ t, P e.2)
    (hentries : ∀ e ∈ entries, P e.2) : ∀ e ∈ t.overlay entries, P e.2 := by
  induction entries generalizing t with
  | nil => exact h
  | cons e rest ih =>
    obtain ⟨hhead, hrest⟩ := List.forall_mem_cons.mp hentries
    exact ih (forall_mem_set h e.1 hhead) hrest

/-! ## Tables from nothing -/

theorem set_eq_append {t : Table α} {name : String} (h : name ∉ t.keys) (a : α) :
    t.set name a = t ++ [(name, a)] := by
  induction t with
  | nil => rfl
  | cons e rest ih =>
    obtain ⟨n, b⟩ := e
    obtain ⟨hn, hrest⟩ := not_or.mp (mt List.mem_cons.mpr h)
    rw [set, if_neg (Ne.symm hn), ih hrest, List.cons_append]

/-- Entries under names that are all new and apart are added as they are. -/
theorem overlay_eq_append {t entries : Table α} (h : (keys (t ++ entries)).Nodup) :
    t.overlay entries = t ++ entries := by
  induction entries generalizing t with
  | nil => exact (List.append_nil t).symm
  | cons e rest ih =>
    have hnew : e.1 ∉ t.keys := by
      rw [keys, List.map_append, List.map_cons] at h
      exact fun hmem => (List.nodup_append.mp h).2.2 e.1 hmem e.1 List.mem_cons_self rfl
    have hmove : t ++ [e] ++ rest = t ++ e :: rest := List.append_assoc t [e] rest
    rw [overlay_cons, set_eq_append hnew, ih (by rwa [hmove]), hmove]

/-- Over one entry, a table that begins with its name is written as it is. -/
theorem overlay_singleton_of_prefix {name : String} {a : α} {t : Table α} (ht : t.keys.Nodup)
    (h : [name] <+: t.keys) : overlay [(name, a)] t = t := by
  rcases t with _ | ⟨⟨n, b⟩, rest⟩
  · exact absurd h.length_le (Nat.not_succ_le_zero 0)
  · obtain rfl : name = n := (List.cons_prefix_cons.mp h).1
    rw [overlay_cons, set, if_pos rfl]
    exact overlay_eq_append ht

/-- What is written into an empty table stands in the order of its first writing. -/
theorem keys_overlay_nil (entries : Table α) :
    (overlay [] entries).keys = (keys entries).eraseDups := by
  induction entries using List.reverseRecOn with
  | nil => rfl
  | append_singleton entries e ih =>
    have hkeys : keys (entries ++ [e]) = keys entries ++ [e.1] := List.map_append
    have hmem : e.1 ∈ (keys entries).eraseDups ↔ e.1 ∈ keys entries := List.mem_eraseDups
    rw [overlay, List.foldl_concat, ← overlay, keys_set, ih, hkeys, List.eraseDups_append]
    by_cases h : e.1 ∈ keys entries
    · rw [if_pos (hmem.mpr h)]
      simp [List.removeAll, h]
    · rw [if_neg (mt hmem.mp h)]
      simp [List.removeAll, h, List.eraseDups_cons]

/-- Entries make a table as they are exactly if no name stands twice. -/
theorem overlay_nil_eq_iff {entries : Table α} :
    overlay [] entries = entries ↔ (keys entries).Nodup := by
  constructor
  · intro h
    rw [← h]
    exact nodup_keys_overlay (t := []) List.nodup_nil entries
  · intro h
    exact overlay_eq_append h

/-- A table has as many entries as were written exactly if no name stands twice. -/
theorem length_overlay_nil_eq_iff {entries : Table α} :
    (overlay [] entries).length = entries.length ↔ (keys entries).Nodup := by
  constructor
  · intro h
    have hnodup : (overlay [] entries).keys.Nodup :=
      nodup_keys_overlay (t := []) List.nodup_nil entries
    have hsubset : (overlay [] entries).keys ⊆ keys entries := fun name hname =>
      (mem_keys_overlay.mp hname).resolve_left List.not_mem_nil
    have hlength : (keys entries).length ≤ (overlay [] entries).keys.length := by
      rw [keys, keys, List.length_map, List.length_map]
      exact Nat.le_of_eq h.symm
    exact ((List.Nodup.subperm hnodup hsubset).perm_of_length_le hlength).nodup_iff.mp hnodup
  · intro h
    rw [overlay_nil_eq_iff.mpr h]

/-! ## Writing more than once -/

/-- Of two writes under one name the second is what is left. -/
theorem set_set (t : Table α) (name : String) (a b : α) :
    (t.set name a).set name b = t.set name b := by
  induction t with
  | nil => exact if_pos rfl
  | cons e rest ih =>
    obtain ⟨n, c⟩ := e
    by_cases h : n = name
    · rw [set, set, if_pos h, if_pos h, set, if_pos h]
    · rw [set, set, if_neg h, if_neg h, set, if_neg h, ih]

/-- Writes under two names can be exchanged if one of them stands there already. -/
theorem set_comm_of_mem {t : Table α} {name other : String} (h : name ≠ other)
    (hmem : name ∈ t.keys) (a b : α) :
    (t.set name a).set other b = (t.set other b).set name a := by
  induction t with
  | nil => cases hmem
  | cons e rest ih =>
    obtain ⟨n, c⟩ := e
    by_cases hname : n = name
    · subst hname
      rw [set, set, if_pos rfl, if_neg h, set, if_neg h, set, if_pos rfl]
    · by_cases hother : n = other
      · subst hother
        rw [set, set, if_neg hname, if_pos rfl, set, if_pos rfl, set, if_neg hname]
      · have hrest : name ∈ keys rest := (List.mem_cons.mp hmem).resolve_left (Ne.symm hname)
        rw [set, set, if_neg hname, if_neg hother, set, if_neg hother, set, if_neg hname, ih hrest]

/-- If both are new, it shows in the order of the entries, and in nothing else. -/
theorem set_comm_perm {name other : String} (h : name ≠ other) (t : Table α) (a b : α) :
    ((t.set name a).set other b).Perm ((t.set other b).set name a) := by
  by_cases hname : name ∈ t.keys
  · exact .of_eq (set_comm_of_mem h hname a b)
  · by_cases hother : other ∈ t.keys
    · exact .of_eq (set_comm_of_mem h.symm hother b a).symm
    · have hother' : other ∉ (t.set name a).keys :=
        fun hmem => (mem_keys_set.mp hmem).elim hother (Ne.symm h)
      have hname' : name ∉ (t.set other b).keys :=
        fun hmem => (mem_keys_set.mp hmem).elim hname h
      rw [set_eq_append hother', set_eq_append hname', set_eq_append hname, set_eq_append hother,
        List.append_assoc, List.append_assoc]
      exact .append_left t (.swap ..)

/-- The table after a write, if there is something to write. -/
def write (name : String) (entry : Option α) (t : Table α) : Table α :=
  entry.elim t fun a => t.set name a

theorem write_write (name : String) (first second : Option α) (t : Table α) :
    write name second (write name first t) = write name (second.or first) t := by
  rcases second with _ | b
  · rfl
  · rcases first with _ | a
    · rfl
    · exact set_set t name a b

/-- Of two rounds of writes under two names, what is written under each in the second round is left,
or else what was written in the first. -/
theorem write_rounds_perm {name other : String} (h : name ≠ other) (a b c d : Option α)
    (t : Table α) :
    (write other d (write name b (write other c (write name a t)))).Perm
      (write other (d.or c) (write name (b.or a) t)) := by
  rw [← write_write, ← write_write]
  generalize write name a t = t
  rcases b with _ | b
  · exact .refl _
  · rcases c with _ | c
    · exact .refl _
    · rcases d with _ | d
      · exact set_comm_perm h.symm t c b
      · -- the first round has put `other` into the table
        have hmem : other ∈ (t.set other c).keys := mem_keys_set.mpr (.inr rfl)
        simp only [write, Option.elim_some]
        rw [← set_comm_of_mem h.symm hmem d b, set_set, set_set]
        exact set_comm_perm h.symm t d b

/-! ## Leaving names out -/

/-- The table without the entries under the given names. -/
def without (names : List String) (t : Table α) : Table α := t.filter fun e => e.1 ∉ names

theorem without_cons_of_mem {names : List String} {e : String × α} (h : e.1 ∈ names)
    (rest : Table α) : without names (e :: rest) = without names rest :=
  List.filter_cons_of_neg (by simpa using h)

theorem without_cons_of_not_mem {names : List String} {e : String × α} (h : e.1 ∉ names)
    (rest : Table α) : without names (e :: rest) = e :: without names rest :=
  List.filter_cons_of_pos (by simpa using h)

/-- Leaving names out is erasing them one after the other. -/
theorem without_erase (name : String) (names : List String) (t : Table α) :
    (t.erase name).without names = t.without (name :: names) := by
  rw [erase, without, without, List.filter_filter]
  refine List.filter_congr fun e _ => ?_
  simp [Bool.and_comm]

/-- Writes under names that are left out do not show. -/
theorem without_set {names : List String} {name : String} (h : name ∈ names) (a : α)
    (t : Table α) : (t.set name a).without names = t.without names := by
  induction t with
  | nil => exact without_cons_of_mem h []
  | cons e rest ih =>
    obtain ⟨n, b⟩ := e
    rw [set]
    by_cases hn : n = name
    · subst hn
      rw [if_pos rfl, without_cons_of_mem h, without_cons_of_mem h]
    · rw [if_neg hn]
      by_cases hmem : n ∈ names
      · rw [without_cons_of_mem hmem, without_cons_of_mem hmem, ih]
      · rw [without_cons_of_not_mem hmem, without_cons_of_not_mem hmem, ih]

/-- What is not left out is there as before. -/
theorem last?_without {names : List String} {name : String} (h : name ∉ names) (t : Table α) :
    last? name (t.without names) = last? name t := by
  induction t with
  | nil => rfl
  | cons e rest ih =>
    obtain ⟨n, b⟩ := e
    by_cases hmem : n ∈ names
    · have hn : n ≠ name := fun heq => h (heq ▸ hmem)
      rw [without_cons_of_mem hmem, ih, last?, if_neg hn, Option.or_none]
    · rw [without_cons_of_not_mem hmem, last?, last?, ih]

end Verdict.Table
