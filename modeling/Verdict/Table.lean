/-!
# Tables in order of first writing

A table maps names to entries and keeps the order in which names were first written. `get?_set`
says that reading sees the last write and nothing else; writing a known name changes its entry and
not its place, so `keys_set` adds a name only when it is new.
-/

namespace Verdict

/-- Names with their entries, in the order of first writing. -/
abbrev Table (α : Type) := List (String × α)

namespace Table

variable {α : Type}

/-- The entry under a name. -/
def get? (name : String) : Table α → Option α
  | [] => none
  | (n, a) :: rest => if n = name then some a else get? name rest

/-- The table after a write. -/
def set (name : String) (entry : α) : Table α → Table α
  | [] => [(name, entry)]
  | (n, a) :: rest => if n = name then (n, entry) :: rest else (n, a) :: set name entry rest

/-- The table without the entry under a name. -/
def erase (name : String) (t : Table α) : Table α := t.filter fun p => p.1 ≠ name

/-- The table after writing the entries of another one after the other. -/
def overlay (t : Table α) (entries : Table α) : Table α :=
  entries.foldl (fun t p => set p.1 p.2 t) t

/-- The names in order. -/
def keys (t : Table α) : List String := t.map (·.1)

/-- Whether the name has an entry. -/
def has (name : String) (t : Table α) : Bool := (t.get? name).isSome

@[simp] theorem get?_nil (name : String) : get? name ([] : Table α) = none := rfl

/-- Reading sees the last write. -/
theorem get?_set (t : Table α) (name other : String) (entry : α) :
    get? other (set name entry t) = if name = other then some entry else get? other t := by
  induction t with
  | nil => simp [set, get?]
  | cons p rest ih =>
    obtain ⟨n, a⟩ := p
    by_cases h : n = name
    · subst h
      by_cases h' : n = other <;> simp [set, get?, h']
    · by_cases h' : n = other
      · subst h'
        simp [set, get?, h, Ne.symm h]
      · simp [set, get?, h, h', ih]

/-- A write adds its name at the end if it is new, and keeps all names in place. -/
theorem keys_set (t : Table α) (name : String) (entry : α) :
    keys (set name entry t) = if name ∈ keys t then keys t else keys t ++ [name] := by
  induction t with
  | nil => simp [set, keys]
  | cons p rest ih =>
    obtain ⟨n, a⟩ := p
    by_cases h : n = name
    · subst h
      simp [set, keys]
    · simp only [keys, List.map_cons, List.mem_cons, Ne.symm h, false_or] at ih ⊢
      simp only [set, if_neg h, List.map_cons, ih]
      by_cases hn : name ∈ List.map (fun x => x.fst) rest <;> simp [hn]

/-- Reading after an erasure. -/
theorem get?_erase (t : Table α) (name other : String) :
    get? other (erase name t) = if name = other then none else get? other t := by
  induction t with
  | nil => simp [erase]
  | cons p rest ih =>
    obtain ⟨n, a⟩ := p
    simp only [erase] at ih ⊢
    by_cases h : n = name
    · subst h
      by_cases h' : n = other
      · subst h'
        simpa [get?] using ih
      · simpa [get?, h'] using ih
    · by_cases h' : n = other
      · subst h'
        simp [get?, h, Ne.symm h]
      · simpa [get?, h, h'] using ih

end Table

end Verdict
