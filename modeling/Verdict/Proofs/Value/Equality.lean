import Verdict.Value.Order

/-!
# Meaning the same

Meaning the same is symmetric (`equals_comm`). It is not reflexive, since the undefined number means
the same as nothing, and neither does what holds it. No two keys of a mapping mean the same if its
entries are written one after the other (`pairwise_written`).
-/

namespace Verdict

theorem Zone.sharesClock_comm (z w : Option Zone) : sharesClock z w = sharesClock w z := by
  rcases z with _ | _ | ⟨place⟩ <;> rcases w with _ | _ | ⟨place'⟩
  case some.region.some.region => exact Bool.beq_comm
  all_goals rfl

theorem Moment.canEqual_comm (m n : Moment) : m.canEqual n = n.canEqual m := by
  rw [canEqual, canEqual, Zone.sharesClock_comm, Bool.and_comm]

theorem Moment.same_comm (m n : Moment) : m.same n = n.same m := by
  rw [same, same, canEqual_comm, Bool.beq_comm (a := m.hasZone),
    Bool.beq_comm (a := m.countBeside n)]

namespace Value

open Number

/-! ## Symmetry -/

theorem samePlace_comm (p q : Option Place) : samePlace p q = samePlace q p := by
  cases p with
  | none => cases q <;> rfl
  | some p =>
    cases q with
    | none => rfl
    | some q => exact Bool.beq_comm

/-- A number means the same as what has its place, on whichever side it stands. -/
theorem equals_of_isNumeric {a b : Value} (h : a.isNumeric = true ∨ b.isNumeric = true) :
    a.equals b = samePlace a.place? b.place? := by
  cases a with
  | bool _ | int _ | float _ => exact equals.eq_def _ _
  | _ =>
    cases b with
    | bool _ | int _ | float _ => exact equals.eq_def _ _
    | _ => rcases h with h | h <;> cases h

theorem equals_comm_of_isNumeric {a b : Value} (h : a.isNumeric = true ∨ b.isNumeric = true) :
    a.equals b = b.equals a := by
  rw [equals_of_isNumeric h, equals_of_isNumeric h.symm, samePlace_comm]

/-- Whether two entries mean the same. -/
def sameEntry (x y : Value × Value) : Bool := x.1.equals y.1 && x.2.equals y.2

theorem entryTests_eq_map (xs : List (Value × Value)) : entryTests xs = xs.map sameEntry := by
  induction xs with
  | nil => rw [entryTests, List.map_nil]
  | cons x rest ih =>
    obtain ⟨k, v⟩ := x
    rw [entryTests, ih, List.map_cons]
    rfl

/-- Mappings mean the same if each entry of one has an entry of the other. -/
theorem equals_mapping (xs ys : List (Value × Value)) :
    (mapping xs).equals (.mapping ys) = (xs.length == ys.length &&
      xs.all (fun x => ys.any fun y => sameEntry x y) &&
        ys.all fun y => xs.any fun x => sameEntry x y) := by
  rw [equals]
  simp only [entryTests_eq_map, List.all_map, List.any_map]
  rfl

theorem equals_mapping_comm {xs ys : List (Value × Value)}
    (h : ∀ x ∈ xs, ∀ y, sameEntry x y = sameEntry y x) :
    (mapping xs).equals (.mapping ys) = (mapping ys).equals (.mapping xs) := by
  have hhere : (xs.all fun x => ys.any fun y => sameEntry x y) =
      xs.all fun x => ys.any fun y => sameEntry y x := by
    rw [Bool.eq_iff_iff, List.all_eq_true, List.all_eq_true]
    exact forall_congr' fun x => forall_congr' fun hx => by rw [List.any_congr rfl (h x hx)]
  have hthere : (ys.all fun y => xs.any fun x => sameEntry x y) =
      ys.all fun y => xs.any fun x => sameEntry y x := by
    refine List.all_congr rfl fun y => ?_
    rw [Bool.eq_iff_iff, List.any_eq_true, List.any_eq_true]
    exact exists_congr fun x => and_congr_right fun hx => by rw [h x hx]
  rw [equals_mapping, equals_mapping, hhere, hthere, Bool.beq_comm, Bool.and_right_comm]

mutual

/-- **To mean the same is symmetric.** -/
theorem equals_comm : ∀ a b : Value, a.equals b = b.equals a
  -- the second value is a number, or of the kind of the first, or does not mean the same anyway
  | .null, b => by
    cases b with
    | bool _ | int _ | float _ => exact equals_comm_of_isNumeric (.inr rfl)
    | _ => rfl
  | .bool _, b | .int _, b | .float _, b => equals_comm_of_isNumeric (.inl rfl)
  | .text s, b => by
    cases b with
    | bool _ | int _ | float _ => exact equals_comm_of_isNumeric (.inr rfl)
    | text t => exact Bool.beq_comm
    | _ => rfl
  | .list xs, b => by
    cases b with
    | bool _ | int _ | float _ => exact equals_comm_of_isNumeric (.inr rfl)
    | list ys => exact equalsEach_comm xs ys
    | _ => rfl
  | .tuple xs, b => by
    cases b with
    | bool _ | int _ | float _ => exact equals_comm_of_isNumeric (.inr rfl)
    | tuple ys => exact equalsEach_comm xs ys
    | _ => rfl
  | .mapping xs, b => by
    cases b with
    | bool _ | int _ | float _ => exact equals_comm_of_isNumeric (.inr rfl)
    | mapping ys => exact equals_mapping_comm (sameEntry_comm_of_mem xs)
    | _ => rfl
  | .date d, b => by
    cases b with
    | bool _ | int _ | float _ => exact equals_comm_of_isNumeric (.inr rfl)
    | date e => exact Bool.beq_comm
    | _ => rfl
  | .moment m, b => by
    cases b with
    | bool _ | int _ | float _ => exact equals_comm_of_isNumeric (.inr rfl)
    | moment n => exact m.same_comm n
    | _ => rfl

theorem equalsEach_comm : ∀ xs ys : List Value, equalsEach xs ys = equalsEach ys xs
  | [], ys => by cases ys <;> simp only [equalsEach]
  | x :: xs, [] => by simp only [equalsEach]
  | x :: xs, y :: ys => by
    simp only [equalsEach]
    rw [equals_comm x y, equalsEach_comm xs ys]

theorem sameEntry_comm_of_mem : ∀ xs : List (Value × Value), ∀ x ∈ xs, ∀ y,
    sameEntry x y = sameEntry y x
  | [], x, h, y => (List.not_mem_nil h).elim
  | (k, v) :: rest, x, h, y => by
    rcases List.mem_cons.mp h with rfl | h
    · rw [sameEntry, sameEntry, equals_comm k, equals_comm v]
    · exact sameEntry_comm_of_mem rest x h y

end

/-! ## Keys of mappings -/

/-- An entry after a write is an old one, perhaps with the new value, or the new one. -/
theorem mem_insert {key value : Value} {entries : List (Value × Value)} {e : Value × Value}
    (h : e ∈ insert key value entries) :
    e ∈ entries ∨ e.2 = value ∧ (e.1 = key ∨ ∃ e' ∈ entries, e'.1 = e.1) := by
  induction entries with
  | nil =>
    obtain rfl := List.mem_singleton.mp h
    exact .inr ⟨rfl, .inl rfl⟩
  | cons first rest ih =>
    rw [insert] at h
    split at h
    next =>
      rcases List.mem_cons.mp h with rfl | hrest
      · exact .inr ⟨rfl, .inr ⟨first, List.mem_cons_self, rfl⟩⟩
      · exact .inl (List.mem_cons_of_mem _ hrest)
    next =>
      rcases List.mem_cons.mp h with rfl | hrest
      · exact .inl List.mem_cons_self
      · rcases ih hrest with hold | ⟨hvalue, hkey | ⟨e', he', hkey⟩⟩
        · exact .inl (List.mem_cons_of_mem _ hold)
        · exact .inr ⟨hvalue, .inl hkey⟩
        · exact .inr ⟨hvalue, .inr ⟨e', List.mem_cons_of_mem _ he', hkey⟩⟩

/-- A write keeps keys apart, whatever is written. -/
theorem pairwise_insert {entries : List (Value × Value)}
    (h : entries.Pairwise fun e e' => e.1.equals e'.1 = false) (key value : Value) :
    (insert key value entries).Pairwise fun e e' => e.1.equals e'.1 = false := by
  induction entries with
  | nil => exact List.pairwise_singleton _ _
  | cons first rest ih =>
    obtain ⟨hfirst, hrest⟩ := List.pairwise_cons.mp h
    rw [insert]
    by_cases hequals : first.1.equals key = true
    · rw [if_pos hequals]
      exact List.pairwise_cons.mpr ⟨hfirst, hrest⟩
    · rw [if_neg hequals]
      refine List.pairwise_cons.mpr ⟨fun e he => ?_, ih hrest⟩
      rcases mem_insert he with hold | ⟨-, rfl | ⟨e', he', hsame⟩⟩
      · exact hfirst e hold
      · exact Bool.eq_false_iff.mpr hequals
      · exact hsame ▸ hfirst e' he'

/-- The keys of a mapping are apart, whatever entries it is written from. -/
theorem pairwise_written (entries : List (Value × Value)) :
    (entries.foldl (fun written e => insert e.1 e.2 written) []).Pairwise
      fun e e' => e.1.equals e'.1 = false := by
  have hwritten (written : List (Value × Value))
      (h : written.Pairwise fun e e' => e.1.equals e'.1 = false) :
      (entries.foldl (fun written e => insert e.1 e.2 written) written).Pairwise
        fun e e' => e.1.equals e'.1 = false := by
    induction entries generalizing written with
    | nil => exact h
    | cons e rest ih => exact ih _ (pairwise_insert h e.1 e.2)
  exact hwritten [] .nil

end Value

end Verdict
