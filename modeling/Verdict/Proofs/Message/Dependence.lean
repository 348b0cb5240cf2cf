import Verdict.Proofs.Message.Slots

/-!
# What a message depends on

A template lists the names of its slots, each once and in order of first appearance
(`collectNames_eq`). `slotNames_exact` says that this is the exact set of parameters that its
messages depend on. Parameters that show the same under these names give the same message; and under
each of the names, two values give different messages as soon as they show differently, whatever the
other parameters are. The last is told by the lengths first, and if these are the same, by the first
slot of that name.

What a slot shows is not looked at again: a message is what the segments of the template write when
each slot has been replaced by text (`Segment.render_eq_write`).
-/

namespace Verdict

/-- What a message can show of a parameter: its value, unless that is nothing. -/
def Parameters.shown? (p : Parameters) (name : String) : Option Value :=
  (p.get? name).filter fun v => !v.isNull

/-- What a slot shows of a value: nothing leaves no trace. -/
def Value.inSlot (v : Value) : String := if v.isNull then "" else v.display

/-! ## Names -/

/-- **The names in order of first appearance**, those seen before left out. -/
theorem collectNames_eq (segments : List Segment) (seen : List String) :
    collectNames seen segments =
      seen ++ ((segments.filterMap Segment.slotName?).removeAll seen).eraseDups := by
  induction segments generalizing seen with
  | nil => exact (List.append_nil seen).symm
  | cons s rest ih =>
    cases s with
    | text content => exact ih seen
    | slot name =>
      have hnames : (Segment.slot name :: rest).filterMap Segment.slotName? =
          name :: rest.filterMap Segment.slotName? := rfl
      rw [collectNames, Segment.slotName?, hnames]
      by_cases hseen : name ∈ seen
      · simp only [if_pos hseen, ih]
        simp [List.removeAll, hseen]
      · have hfilter (names : List String) : names.removeAll (seen ++ [name]) =
            (names.removeAll seen).filter fun other => !other == name := by
          simp [List.removeAll, List.filter_filter, Bool.and_comm, beq_eq_decide]
        have hcons (names : List String) :
            (name :: names).removeAll seen = name :: names.removeAll seen := by
          simp [List.removeAll, hseen]
        simp only [if_neg hseen, ih, hfilter, hcons, List.eraseDups_cons, List.append_assoc,
          List.singleton_append]

theorem nodup_collectNames {segments : List Segment} {seen : List String} (h : seen.Nodup) :
    (collectNames seen segments).Nodup := by
  induction segments generalizing seen with
  | nil => exact h
  | cons s rest ih =>
    cases s with
    | text content => exact ih h
    | slot name =>
      rw [collectNames, Segment.slotName?]
      by_cases hseen : name ∈ seen
      · simp only [if_pos hseen]
        exact ih h
      · simp only [if_neg hseen]
        exact ih (h.append (List.nodup_singleton name) (List.disjoint_singleton.mpr hseen))

namespace Segment

variable {segments : List Segment} {p q : Parameters} {name : String}

/-! ## Slots -/

theorem fill_slot (p : Parameters) (name : String) :
    fill p (.slot name) = ((p.shown? name).map Value.display).getD "" := by
  rw [fill, Parameters.shown?]
  rcases p.get? name with _ | value
  · rfl
  · cases value <;> rfl

theorem fill_set (p : Parameters) (name : String) (v : Value) :
    fill (p.set name v) (.slot name) = v.inSlot := by
  rw [fill, Table.get?_set, if_pos rfl]
  cases v <;> rfl

theorem fill_set_of_ne (p : Parameters) (name : String) (v : Value) {s : Segment}
    (h : s ≠ .slot name) : fill (p.set name v) s = fill p s := by
  cases s with
  | text content => rfl
  | slot other =>
    have hne : name ≠ other := fun heq => h (heq ▸ rfl)
    rw [fill, fill, Table.get?_set, if_neg hne]

/-! ## Messages -/

/-- Parameters that show the same under the names of the slots give the same message. -/
theorem render_eq_of_shown?_eq (h : ∀ name, .slot name ∈ segments → p.shown? name = q.shown? name) :
    render segments p = render segments q := by
  refine congrArg String.join (List.map_congr_left fun s hs => ?_)
  cases s with
  | text content => rfl
  | slot name => rw [fill_slot, fill_slot, h name hs]

/-- Two messages are apart in length by what the slots of one name show. -/
theorem length_render_add (h : ∀ s, s ≠ .slot name → fill p s = fill q s) :
    (render segments p).length + segments.count (.slot name) * (fill q (.slot name)).length =
      (render segments q).length + segments.count (.slot name) * (fill p (.slot name)).length := by
  induction segments with
  | nil => simp [render]
  | cons s rest ih =>
    simp only [render_cons, String.length_append]
    by_cases hs : s = .slot name
    · rw [hs, List.count_cons_self, Nat.add_one_mul, Nat.add_one_mul]
      omega
    · rw [List.count_cons_of_ne hs, h s hs]
      omega

/-- **A slot shows**: parameters that differ under one name alone, and give the same message
although a slot has that name, show the same there. -/
theorem fill_eq_of_render_eq (hother : ∀ s, s ≠ .slot name → fill p s = fill q s)
    (hslot : .slot name ∈ segments) (h : render segments p = render segments q) :
    fill p (.slot name) = fill q (.slot name) := by
  have hlength : (fill p (.slot name)).length = (fill q (.slot name)).length := by
    have hadd : (render segments p).length + _ = (render segments q).length + _ :=
      length_render_add hother
    rw [h] at hadd
    exact (Nat.eq_of_mul_eq_mul_left (List.count_pos_iff.mpr hslot) (Nat.add_left_cancel hadd)).symm
  induction segments with
  | nil => cases hslot
  | cons s rest ih =>
    rw [render_cons, render_cons] at h
    by_cases hs : s = .slot name
    · -- at the first slot of the name, texts of one length begin messages that are the same
      rw [hs] at h
      have hchars := congrArg String.toList h
      rw [String.toList_append, String.toList_append] at hchars
      refine String.toList_injective (List.append_inj hchars ?_).1
      rw [String.length_toList, String.length_toList, hlength]
    · rw [hother s hs] at h
      exact ih ((List.mem_cons.mp hslot).resolve_left (Ne.symm hs))
        ((String.append_right_inj _).mp h)

/-- Setting a parameter in two ways gives one message exactly if no slot has its name or the two
values show the same. -/
theorem render_set_eq_iff (segments : List Segment) (p : Parameters) (name : String)
    (v w : Value) : render segments (p.set name v) = render segments (p.set name w) ↔
      (.slot name ∈ segments → v.inSlot = w.inSlot) := by
  have hother (s : Segment) (hs : s ≠ .slot name) :
      fill (p.set name v) s = fill (p.set name w) s := by
    rw [fill_set_of_ne p name v hs, fill_set_of_ne p name w hs]
  constructor
  · intro h hslot
    have hfill := fill_eq_of_render_eq hother hslot h
    rwa [fill_set, fill_set] at hfill
  · intro h
    refine congrArg String.join (List.map_congr_left fun s hs => ?_)
    by_cases hname : s = .slot name
    · rw [hname, fill_set, fill_set, h (hname ▸ hs)]
    · exact hother s hname

/-- **What slots show is not looked at again**: the message is what is written when each segment is
the text that it shows. -/
theorem render_eq_write (segments : List Segment) (p : Parameters) :
    render segments p = write (segments.map fun s => .text (fill p s)) := by
  refine String.toList_injective ?_
  rw [write, String.toList_ofList, List.flatMap_map]
  induction segments with
  | nil => rfl
  | cons s rest ih => rw [render_cons, String.toList_append, ih, List.flatMap_cons, chars]

end Segment

/-! ## All together -/

/-- **The names of a template are what its messages depend on.** They are the names of its slots,
each once, in order of first appearance. Parameters that show the same under all of them give the
same message. Under each of them there are parameters that differ there alone and give different
messages; indeed, whatever the other parameters are, two values give the same message only if they
show the same. What is shown is not looked at again for slots. All this is so of every provider, as
it is after any calls, and of every code that it shows with the template. -/
theorem slotNames_exact (template : String) :
    let message := Segment.render (Segment.compile template)
    (slotNames template).Nodup ∧
    slotNames template = ((Segment.compile template).filterMap Segment.slotName?).eraseDups ∧
    (∀ p q : Parameters, (∀ name ∈ slotNames template, p.shown? name = q.shown? name) →
      message p = message q) ∧
    (∀ name ∈ slotNames template, ∃ p q : Parameters,
      (∀ other, other ≠ name → p.get? other = q.get? other) ∧ message p ≠ message q) ∧
    (∀ name ∈ slotNames template, ∀ (p : Parameters) (v w : Value),
      message (p.set name v) = message (p.set name w) ↔ v.inSlot = w.inSlot) ∧
    (∀ p, message p = Segment.write ((Segment.compile template).map fun s => .text (s.fill p))) ∧
    ∀ (templates : Table String) (includeBuiltin : Bool) (calls : List Provider.Call)
      (code : String), let provider := (Provider.new templates includeBuiltin).follow calls
      (provider.templateFor code).1 = template →
        ∀ p, (provider.render code p).1 = message p := by
  intro message
  have hset (name : String) (hname : name ∈ slotNames template) (p : Parameters) (v w : Value) :
      message (p.set name v) = message (p.set name w) ↔ v.inSlot = w.inSlot := by
    rw [Segment.render_set_eq_iff]
    exact forall_prop_of_true (mem_slotNames.mp hname)
  refine ⟨nodup_collectNames List.nodup_nil, ?_, fun p q h => ?_, fun name hname => ?_, hset,
    Segment.render_eq_write _, ?_⟩
  · rw [slotNames, collectNames_eq, List.removeAll_nil, List.nil_append]
  · exact Segment.render_eq_of_shown?_eq fun name hslot => h name (mem_slotNames.mpr hslot)
  · refine ⟨Table.set name .null [], Table.set name (.text "shown") [], fun other hother => ?_, ?_⟩
    · rw [Table.get?_set, Table.get?_set, if_neg hother.symm, if_neg hother.symm]
    · rw [ne_eq, hset name hname]
      decide
  · intro templates includeBuiltin calls code provider hcode p
    have hfaithful : provider.Faithful := (Provider.faithful_new _ _).follow calls
    rw [Provider.render]
    simp only [hfaithful.get_fst, hcode]
    rfl

/-- A template with a name that stands twice, one that is empty, one with a brace in it, and a brace
that is never closed. -/
def sampleBraces : String := "\x7ba\x7d\x7b\x7d\x7bx\x7by\x7d\x7ba\x7d\x7bb"

/-- A value that looks like a slot of the template is shown as it is; a parameter that only an open
brace names does not matter, and neither does one that is nothing; another value of the parameter
that the first one looks like does. -/
theorem slotNames_exact_sampleBraces :
    let message := Segment.render (Segment.compile sampleBraces)
    let p : Parameters := [("a", .text "\x7bx\x7by\x7d")]
    slotNames sampleBraces = ["a", "", "x\x7by"] ∧
      message p = "\x7bx\x7by\x7d\x7bx\x7by\x7d\x7bb" ∧
      message [("b", .int 1), ("", .null), ("a", .text "\x7bx\x7by\x7d")] = message p ∧
      message (p.set "x\x7by" (.int 1)) ≠ message (p.set "x\x7by" (.text "\x7ba\x7d")) ∧
      (((Provider.new [] false).follow [.setTemplate "c" sampleBraces]).render "c" p).1 =
        message p := by
  intro message p
  obtain ⟨-, hnames, hagree, -, hset, hwrite, hprovider⟩ := slotNames_exact sampleBraces
  have hlist : slotNames sampleBraces = ["a", "", "x\x7by"] := by
    rw [hnames]
    rfl
  have hcode : (((Provider.new [] false).follow [.setTemplate "c" sampleBraces]).templateFor
      "c").1 = sampleBraces := by rfl
  refine ⟨hlist, (hwrite p).trans (by decide +kernel), hagree _ p ?_, ?_,
    hprovider [] false [.setTemplate "c" sampleBraces] "c" hcode p⟩
  · simp only [hlist, List.forall_mem_cons]
    exact ⟨rfl, rfl, rfl, fun _ h => nomatch h⟩
  · rw [ne_eq, hset "x\x7by" (by rw [hlist]; decide)]
    decide

end Verdict
