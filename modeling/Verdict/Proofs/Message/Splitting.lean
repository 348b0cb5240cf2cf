import Mathlib.Data.List.Basic
import Verdict.Message.Template

/-!
# Splitting templates

A template and its segments are two forms of one thing. Writing the segments of a template gives
the template back, character by character, since the scan never loses what it has read:
`flatMap_chars_scan` counts what it holds back for the next segment.

Not every list of segments comes from a template, for some write a text that is split elsewhere.
`SplitForm` names the four ways to go wrong; `normal_iff` says that `Segment.Normal`, which follows
the list, means the same. On lists in split form, splitting undoes writing, and so templates and
lists in split form correspond one to one (`compile_bijective`).
-/

namespace Verdict.Segment

/-! ## Writing what was split -/

/-- The characters that are read and not yet part of a segment. -/
def held (read : List Char) : Option (List Char) → List Char
  | none => read.reverse
  | some name => read.reverse ++ '{' :: name.reverse

theorem flatMap_chars_flush (read : List Char) : (flush read).flatMap chars = read.reverse := by
  cases read with
  | nil => rfl
  | cons c read =>
    rw [flush, List.isEmpty_cons, if_neg Bool.false_ne_true, List.flatMap_singleton, chars,
      String.toList_ofList]

/-- The segments of a scan write what was held back and what was still to come. -/
theorem flatMap_chars_scan (read : List Char) (name : Option (List Char)) (cs : List Char) :
    (scan read name cs).flatMap chars = held read name ++ cs := by
  induction cs generalizing read name with
  | nil =>
    cases name with
    | none => rw [scan, flatMap_chars_flush, held, List.append_nil]
    | some name =>
      rw [scan, flatMap_chars_flush, held, List.append_nil, List.reverse_append,
        List.reverse_cons, List.append_assoc, List.singleton_append]
  | cons c rest ih =>
    cases name with
    | none =>
      by_cases hopen : c = '{'
      · rw [scan, if_pos hopen, ih, hopen, held, held, List.reverse_nil, List.append_assoc,
          List.singleton_append]
      · rw [scan, if_neg hopen, ih, held, held, List.reverse_cons, List.append_assoc,
          List.singleton_append]
    | some name =>
      by_cases hclose : c = '}'
      · rw [scan, if_pos hclose, List.flatMap_append, List.flatMap_cons, ih, flatMap_chars_flush,
          chars, String.toList_ofList, hclose, held, held, List.reverse_nil, List.nil_append]
        simp only [List.cons_append, List.append_assoc, List.nil_append]
      · rw [scan, if_neg hclose, ih, held, held, List.reverse_cons]
        simp only [List.cons_append, List.append_assoc, List.nil_append]

theorem write_compile (template : String) : write (compile template) = template := by
  rw [write, compile, flatMap_chars_scan, held, List.reverse_nil, List.nil_append,
    String.ofList_toList]

/-! ## Split form -/

/-- What the lists of segments that come from a template have in common. -/
structure SplitForm (segments : List Segment) : Prop where
  /-- No text is empty. -/
  text_ne : ∀ content, .text content ∈ segments → content ≠ ""
  /-- No text follows a text. -/
  apart : ∀ a b after, a :: b :: after <:+ segments → ¬(a.isText = true ∧ b.isText = true)
  /-- No name holds a closing brace. -/
  name_open : ∀ name, .slot name ∈ segments → '}' ∉ name.toList
  /-- A text with an opening brace is the last segment, and does not close the brace. -/
  brace_last : ∀ content after l r, .text content :: after <:+ segments →
    content.toList = l ++ '{' :: r → after = [] ∧ '}' ∉ r

theorem splitForm_nil : SplitForm [] where
  text_ne _ h := absurd h List.not_mem_nil
  apart _ _ _ h := absurd (List.suffix_nil.mp h) (List.cons_ne_nil _ _)
  name_open _ h := absurd h List.not_mem_nil
  brace_last _ _ _ _ h := absurd (List.suffix_nil.mp h) (List.cons_ne_nil _ _)

theorem splitForm_slot_cons {name : String} {rest : List Segment} :
    SplitForm (.slot name :: rest) ↔ '}' ∉ name.toList ∧ SplitForm rest := by
  constructor
  · intro h
    exact ⟨h.name_open name List.mem_cons_self,
      fun content hc => h.text_ne content (List.mem_cons_of_mem _ hc),
      fun a b after hs => h.apart a b after (hs.trans (List.suffix_cons _ _)),
      fun name hn => h.name_open name (List.mem_cons_of_mem _ hn),
      fun content after l r hs => h.brace_last content after l r (hs.trans (List.suffix_cons _ _))⟩
  · rintro ⟨hname, h⟩
    refine ⟨fun content hc => ?_, fun a b after hs => ?_, fun n hn => ?_,
      fun content after l r hs => ?_⟩
    · exact h.text_ne content (List.mem_of_ne_of_mem (by simp) hc)
    · rcases List.suffix_cons_iff.mp hs with heq | hs
      · obtain ⟨rfl, -⟩ := List.cons.inj heq
        simp [isText]
      · exact h.apart a b after hs
    · rcases List.mem_cons.mp hn with heq | hn
      · obtain rfl := Segment.slot.inj heq
        exact hname
      · exact h.name_open n hn
    · rcases List.suffix_cons_iff.mp hs with heq | hs
      · cases heq
      · exact h.brace_last content after l r hs

theorem splitForm_text_cons {content : String} {rest : List Segment} :
    SplitForm (.text content :: rest) ↔
      content ≠ "" ∧ (∀ l r, content.toList = l ++ '{' :: r → rest = [] ∧ '}' ∉ r) ∧
        rest.head?.map isText ≠ some true ∧ SplitForm rest := by
  constructor
  · intro h
    refine ⟨h.text_ne content List.mem_cons_self,
      fun l r => h.brace_last content rest l r List.suffix_rfl, ?_,
      fun content hc => h.text_ne content (List.mem_cons_of_mem _ hc),
      fun a b after hs => h.apart a b after (hs.trans (List.suffix_cons _ _)),
      fun name hn => h.name_open name (List.mem_cons_of_mem _ hn),
      fun content after l r hs => h.brace_last content after l r (hs.trans (List.suffix_cons _ _))⟩
    cases rest with
    | nil => simp
    | cons b after => simpa [isText] using h.apart (.text content) b after List.suffix_rfl
  · rintro ⟨hne, hbrace, hhead, h⟩
    refine ⟨fun c hc => ?_, fun a b after hs => ?_, fun n hn => ?_, fun c after l r hs => ?_⟩
    · rcases List.mem_cons.mp hc with heq | hc
      · obtain rfl := Segment.text.inj heq
        exact hne
      · exact h.text_ne c hc
    · rcases List.suffix_cons_iff.mp hs with heq | hs
      · obtain ⟨rfl, rfl⟩ := List.cons.inj heq
        simpa [isText] using hhead
      · exact h.apart a b after hs
    · exact h.name_open n (List.mem_of_ne_of_mem (by simp) hn)
    · rcases List.suffix_cons_iff.mp hs with heq | hs
      · obtain ⟨htext, rfl⟩ := List.cons.inj heq
        obtain rfl := Segment.text.inj htext
        exact hbrace l r
      · exact h.brace_last c after l r hs

theorem closes_eq_false_iff {cs : List Char} :
    closes cs = false ↔ ∀ l r, cs = l ++ '{' :: r → '}' ∉ r := by
  induction cs with
  | nil => simp [closes]
  | cons c rest ih =>
    rw [closes, Bool.or_eq_false_iff, ih]
    constructor
    · rintro ⟨hhead, hrest⟩ l r h
      cases l with
      | nil =>
        obtain ⟨rfl, rfl⟩ := List.cons.inj h
        simpa using hhead
      | cons x l => exact hrest l r (List.cons.inj h).2
    · intro h
      refine ⟨?_, fun l r hr => h (c :: l) r (congrArg (c :: ·) hr)⟩
      by_cases hopen : c = '{'
      · simpa [hopen] using h [] rest (congrArg (· :: rest) hopen)
      · simp [hopen]

/-- In a text that something follows, no opening brace can stand. -/
theorem not_mem_iff_brace_last {content : String} {b : Segment} {rest : List Segment} :
    '{' ∉ content.toList ↔
      ∀ l r, content.toList = l ++ '{' :: r → b :: rest = [] ∧ '}' ∉ r := by
  constructor
  · intro h l r hsplit
    refine absurd ?_ h
    rw [hsplit]
    exact List.mem_append_right l List.mem_cons_self
  · intro h hmem
    obtain ⟨l, r, hsplit⟩ := List.append_of_mem hmem
    exact absurd (h l r hsplit).1 (List.cons_ne_nil b rest)

theorem head_isText_iff {b : Segment} {rest : List Segment} :
    (b :: rest).head?.map isText = some false ↔ (b :: rest).head?.map isText ≠ some true := by
  simp

/-- The two ways of saying that a list is split are one. -/
theorem normal_iff {segments : List Segment} : Normal segments ↔ SplitForm segments := by
  induction segments with
  | nil => exact iff_of_true trivial splitForm_nil
  | cons a rest ih =>
    cases a with
    | slot name => rw [Normal, splitForm_slot_cons, ih]
    | text content =>
      have hne : content.toList ≠ [] ↔ content ≠ "" := by simp
      cases rest with
      | nil =>
        rw [Normal, splitForm_text_cons, hne, closes_eq_false_iff]
        simp [splitForm_nil]
      | cons b rest =>
        rw [splitForm_text_cons, ← ih, ← hne, ← not_mem_iff_brace_last, ← head_isText_iff]
        exact Iff.rfl

/-! ## Splitting what was written -/

/-- Text is read on until an opening brace comes. -/
theorem scan_text {text : List Char} (h : '{' ∉ text) (read cs : List Char) :
    scan read none (text ++ cs) = scan (text.reverse ++ read) none cs := by
  induction text generalizing read with
  | nil => rfl
  | cons c rest ih =>
    have hc : c ≠ '{' := (List.ne_of_not_mem_cons h).symm
    have hrest : '{' ∉ rest := List.not_mem_of_not_mem_cons h
    rw [List.cons_append, scan, if_neg hc, ih hrest, List.reverse_cons, List.append_assoc,
      List.singleton_append]

/-- Within braces, characters are read on until a closing brace comes. -/
theorem scan_name {more : List Char} (h : '}' ∉ more) (read name cs : List Char) :
    scan read (some name) (more ++ cs) = scan read (some (more.reverse ++ name)) cs := by
  induction more generalizing name with
  | nil => rfl
  | cons c rest ih =>
    have hc : c ≠ '}' := (List.ne_of_not_mem_cons h).symm
    have hrest : '}' ∉ rest := List.not_mem_of_not_mem_cons h
    rw [List.cons_append, scan, if_neg hc, ih hrest, List.reverse_cons, List.append_assoc,
      List.singleton_append]

/-- A slot that is written ends the text before it and is read as itself. -/
theorem scan_slot {name : String} (h : '}' ∉ name.toList) (read cs : List Char) :
    scan read none (chars (.slot name) ++ cs) = flush read ++ .slot name :: scan [] none cs := by
  rw [chars, List.cons_append, scan, if_pos rfl, List.append_assoc, scan_name h,
    List.singleton_append, scan, if_pos rfl, List.append_nil, List.reverse_reverse,
    String.ofList_toList]

/-- Text in which no brace is closed is read as one text. -/
theorem scan_of_closes_eq_false {cs : List Char} (h : closes cs = false) (read : List Char) :
    scan read none cs = flush (cs.reverse ++ read) := by
  induction cs generalizing read with
  | nil => rfl
  | cons c rest ih =>
    rw [closes, Bool.or_eq_false_iff] at h
    by_cases hopen : c = '{'
    · -- the scan takes the rest for a name, which never ends
      have hclose : '}' ∉ rest := by simpa [hopen] using h.1
      have hname := scan_name hclose read [] []
      rw [List.append_nil, List.append_nil] at hname
      rw [scan, if_pos hopen, hname, scan, hopen, List.reverse_cons, List.append_assoc,
        List.singleton_append]
    · rw [scan, if_neg hopen, ih h.2, List.reverse_cons, List.append_assoc,
        List.singleton_append]

theorem flush_reverse_toList {content : String} (h : content.toList ≠ []) :
    flush content.toList.reverse = [.text content] := by
  rw [flush, if_neg (by simpa using h), List.reverse_reverse, String.ofList_toList]

/-- Segments in split form are read as they were written. -/
theorem scan_flatMap_chars {segments : List Segment} (h : Normal segments) :
    scan [] none (segments.flatMap chars) = segments := by
  fun_induction Normal segments with
  | case1 => rfl
  | case2 name rest ih =>
    rw [List.flatMap_cons, scan_slot h.1, ih h.2]
    rfl
  | case3 content =>
    rw [List.flatMap_singleton, chars, scan_of_closes_eq_false h.2, List.append_nil,
      flush_reverse_toList h.1]
  | case4 content rest hrest ih =>
    obtain ⟨hne, hopen, hhead, hnormal⟩ := h
    -- only a slot can come after the text, and it is read in the same way after any text
    cases rest with
    | nil => exact absurd rfl hrest
    | cons b rest =>
      cases b with
      | text other => simp [isText] at hhead
      | slot name =>
        have hslot := ih hnormal
        rw [List.flatMap_cons, scan_slot hnormal.1] at hslot
        rw [List.flatMap_cons, chars, scan_text hopen, List.append_nil, List.flatMap_cons,
          scan_slot hnormal.1, flush_reverse_toList hne]
        exact congrArg (.text content :: ·) hslot

theorem compile_write {segments : List Segment} (h : Normal segments) :
    compile (write segments) = segments := by
  rw [compile, write, String.toList_ofList, scan_flatMap_chars h]

/-! ## Splitting gives split form -/

/-- Text without an opening brace closes none, whatever follows it. -/
theorem closes_append {text cs : List Char} (h : '{' ∉ text) :
    closes (text ++ cs) = closes cs := by
  induction text with
  | nil => rfl
  | cons c rest ih =>
    have hc : c ≠ '{' := (List.ne_of_not_mem_cons h).symm
    have hrest : '{' ∉ rest := List.not_mem_of_not_mem_cons h
    rw [List.cons_append, closes, ih hrest]
    simp [hc]

theorem closes_eq_false_of_not_mem {cs : List Char} (h : '}' ∉ cs) : closes cs = false := by
  rw [closes_eq_false_iff]
  rintro l r rfl hmem
  exact h (List.mem_append_right l (List.mem_cons_of_mem _ hmem))

theorem normal_flush {read : List Char} (h : closes read.reverse = false) :
    Normal (flush read) := by
  cases read with
  | nil => trivial
  | cons c read =>
    rw [flush, List.isEmpty_cons, if_neg Bool.false_ne_true, Normal, String.toList_ofList]
    exact ⟨by simp, h⟩

theorem normal_flush_append_slot {read : List Char} {name : String} {rest : List Segment}
    (hread : '{' ∉ read) (h : Normal (.slot name :: rest)) :
    Normal (flush read ++ .slot name :: rest) := by
  cases read with
  | nil => exact h
  | cons c read =>
    rw [flush, List.isEmpty_cons, if_neg Bool.false_ne_true, List.singleton_append]
    refine ⟨?_, ?_, rfl, h⟩
    · rw [String.toList_ofList]
      simp
    · rwa [String.toList_ofList, List.mem_reverse]

/-- As long as the text holds no opening and the name no closing brace, the segments of a scan are
in split form. -/
theorem normal_scan {read : List Char} {name : Option (List Char)} (hread : '{' ∉ read)
    (hname : ∀ n ∈ name, '}' ∉ n) (cs : List Char) : Normal (scan read name cs) := by
  induction cs generalizing read name with
  | nil =>
    cases name with
    | none =>
      refine normal_flush ?_
      rw [← List.append_nil read.reverse, closes_append (by simpa using hread)]
      rfl
    | some n =>
      have hn : '}' ∉ n := hname n rfl
      refine normal_flush ?_
      rw [List.reverse_append, List.reverse_cons, List.append_assoc,
        closes_append (by simpa using hread)]
      exact closes_eq_false_of_not_mem (by simpa using hn)
  | cons c rest ih =>
    cases name with
    | none =>
      by_cases hopen : c = '{'
      · rw [scan, if_pos hopen]
        exact ih hread (by simp)
      · rw [scan, if_neg hopen]
        exact ih (List.not_mem_cons_of_ne_of_not_mem (Ne.symm hopen) hread) hname
    | some n =>
      have hn : '}' ∉ n := hname n rfl
      by_cases hclose : c = '}'
      · rw [scan, if_pos hclose]
        refine normal_flush_append_slot hread ⟨?_, ih List.not_mem_nil (by simp)⟩
        rwa [String.toList_ofList, List.mem_reverse]
      · rw [scan, if_neg hclose]
        refine ih hread fun m hm => ?_
        obtain rfl := Option.mem_some.mp hm
        exact List.not_mem_cons_of_ne_of_not_mem (Ne.symm hclose) hn

theorem normal_compile (template : String) : Normal (compile template) :=
  normal_scan List.not_mem_nil (by simp) _

/-- **Templates are lists in split form**: the segments of a template write it and are in split
form, and a list of segments is in split form exactly if it is what the template that it writes is
split into. -/
theorem compile_bijective :
    (∀ template, write (compile template) = template ∧ SplitForm (compile template)) ∧
      ∀ segments, SplitForm segments ↔ compile (write segments) = segments := by
  refine ⟨fun template => ⟨write_compile template, normal_iff.mp (normal_compile template)⟩,
    fun segments => ⟨fun h => compile_write (normal_iff.mpr h), fun h => ?_⟩⟩
  rw [← h]
  exact normal_iff.mp (normal_compile (write segments))

/-- Braces that open in vain, close nothing, or stand in a name. -/
example : compile "a\x7d\x7b\x7bb\x7d\x7b\x7dc\x7bd" =
    [.text "a\x7d", .slot "\x7bb", .slot "", .text "c\x7bd"] := by decide

end Verdict.Segment
