import Verdict.Proofs.Catalog.Layout
import Verdict.Proofs.Table
import Verdict.Proofs.Value.Display
import Verdict.Proofs.Value.Mapping
import Verdict.Proofs.Yaml.Document

/-!
# What a catalog loads to

A file loads exactly if it holds a document with a mapping of templates that can be written, and
nothing was found in it if it was checked (`load_eq_ok_iff`). The entries of the mapping are then
written one after the other as they stand in a message. So a code that two keys read as is there
once, with the later text, and the other text is lost: keys that differ as values can read the same,
and checking does not keep such keys out. `load_checked` says what is there in any case, and when
nothing is lost. All it needs of the reader is that no two keys of a mapping mean the same.
-/

namespace Verdict.Catalog

variable {reader : DocumentReader} {files : Folder} {path : Path} {checked : Bool}
  {templates : Table String}

/-! ## Documents -/

/-- An entry as it stands in a message. -/
def shown (e : Value × Value) : String × String := (e.1.display, e.2.display)

/-- The codes that the keys of entries read as. -/
def codes (entries : List (Value × Value)) : List String := entries.map fun e => e.1.display

theorem keys_map_shown (entries : List (Value × Value)) :
    Table.keys (entries.map shown) = codes entries := List.map_map

/-- The entries are written one after the other, if they can be written. -/
theorem writeTemplates_eq (entries : List (Value × Value)) : writeTemplates entries =
    if Value.areWritableEntries entries then .ok (Table.overlay [] (entries.map shown))
    else .error .integerTooLong := by
  simp only [writeTemplates, Table.overlay, List.foldl_map, shown]

theorem writeTemplates_eq_ok_iff {entries : List (Value × Value)} :
    writeTemplates entries = .ok templates ↔
      Value.areWritableEntries entries = true ∧
        templates = Table.overlay [] (entries.map shown) := by
  rw [writeTemplates_eq]
  cases Value.areWritableEntries entries with
  | false => exact iff_of_false (fun h => nomatch h) fun h => nomatch h.1
  | true => exact ⟨fun h => ⟨rfl, (Except.ok.inj h).symm⟩, fun h => congrArg Except.ok h.2.symm⟩

/-- In a document no two keys of templates mean the same. -/
theorem distinctKeys_templateEntries {v : Value} {entries : List (Value × Value)} (hv : v.Keyed)
    (h : templateEntries? v = some entries) : Value.DistinctKeys entries := by
  cases v with
  | mapping top =>
    rw [templateEntries?] at h
    split at h
    next templates hfound =>
      obtain rfl := Option.some.inj h
      exact (hv.lookup? hfound).distinctKeys
    next => cases h
  | _ => cases h

/-- What is read from a file is a document of the reader. -/
theorem keyed_of_read (hreader : reader.IsKeyed) {v : Value}
    (h : read reader files path = .ok (.document v)) : v.Keyed := by
  rw [read] at h
  split at h
  next => cases h
  split at h
  next => cases h
  next content _ =>
    rcases hread : reader content with (_ | _) | u
    · rw [hread] at h
      cases h
    · rw [hread] at h
      cases h
    · have hu := hreader _ _ hread
      rw [hread] at h
      cases u <;> cases h <;> exact hu

/-! ## Loading -/

/-- A document with templates loads to what these are written as. -/
theorem loadUnchecked_of_entries {v : Value} {entries : List (Value × Value)}
    (hread : read reader files path = .ok (.document v))
    (hentries : templateEntries? v = some entries) :
    (loadUnchecked reader files path).answer = writeTemplates entries := by
  simp only [loadUnchecked, hread, hentries, Option.map_some]
  cases writeTemplates entries <;> rfl

theorem loadUnchecked_eq_ok_iff : (loadUnchecked reader files path).answer = .ok templates ↔
    ∃ v entries, read reader files path = .ok (.document v) ∧ templateEntries? v = some entries ∧
      writeTemplates entries = .ok templates := by
  constructor
  · intro h
    rcases hread : read reader files path with fault | ⟨v⟩ | ⟨issue⟩
    · rw [loadUnchecked, hread] at h
      cases h
    · rcases hentries : templateEntries? v with _ | entries
      · simp only [loadUnchecked, hread, hentries, Option.map_none] at h
        cases h
      · exact ⟨v, entries, rfl, hentries, (loadUnchecked_of_entries hread hentries).symm.trans h⟩
    · rw [loadUnchecked, hread] at h
      cases h
  · rintro ⟨v, entries, hread, hentries, hwritten⟩
    exact (loadUnchecked_of_entries hread hentries).trans hwritten

/-- **What loads**: a document with templates that can be written, in which nothing is found if it
is checked. -/
theorem load_eq_ok_iff : (load reader files path checked).answer = .ok templates ↔
    (checked = true → validate reader files path = .ok []) ∧ ∃ v entries,
      read reader files path = .ok (.document v) ∧ templateEntries? v = some entries ∧
        writeTemplates entries = .ok templates := by
  rw [← loadUnchecked_eq_ok_iff, load]
  cases checked with
  | false => exact (and_iff_right fun h => nomatch h).symm
  | true =>
    rcases validate reader files path with fault | _ | ⟨issue, more⟩
    · exact iff_of_false (fun h => nomatch h) fun h => nomatch h.1 rfl
    · exact (and_iff_right fun _ => rfl).symm
    · exact iff_of_false (fun h => nomatch h) fun h => nomatch h.1 rfl

/-- If nothing is found, the file loads as it would without being checked. -/
theorem load_of_validate_nil (h : validate reader files path = .ok []) :
    load reader files path true = loadUnchecked reader files path := by
  rw [load, if_pos rfl, h]

/-- **The layout asks for all that loading asks for**, but for keys that can be written: a file in
which nothing is found has templates, and loads if their keys can be written. -/
theorem exists_entries_of_validate_nil (h : validate reader files path = .ok []) : ∃ v entries,
    read reader files path = .ok (.document v) ∧ templateEntries? v = some entries ∧
      (loadUnchecked reader files path).answer =
        if Value.areWritable (entries.map (·.1)) then .ok (Table.overlay [] (entries.map shown))
        else .error .integerTooLong := by
  obtain ⟨top, entries, hread, hlaid⟩ := validate_eq_nil_iff.mp h
  refine ⟨_, entries, hread, hlaid.templateEntries?_eq, ?_⟩
  rw [loadUnchecked_of_entries hread hlaid.templateEntries?_eq, writeTemplates_eq,
    Value.areWritableEntries_of_texts hlaid.texts]

/-- **A catalog has each code once**, whether or not its layout was checked. -/
theorem nodup_keys_of_load (h : (load reader files path checked).answer = .ok templates) :
    templates.keys.Nodup := by
  obtain ⟨-, v, entries, -, -, hwritten⟩ := load_eq_ok_iff.mp h
  obtain ⟨-, rfl⟩ := writeTemplates_eq_ok_iff.mp hwritten
  exact Table.nodup_keys_overlay (t := []) List.nodup_nil _

/-! ## Keys that read the same -/

/-- A text that passes as a key reads like no other value, unless that is a number in floating
point. -/
theorem PassesAsKey.display_ne {key : String} (h : PassesAsKey (.text key)) {v : Value}
    {look : Look} (hv : v.look? = some look) : key ≠ v.display := by
  rintro rfl
  exact h.chars.2 (Value.space_mem_display_of_point_mem hv h.chars.1)

/-- **Two keys read the same only if one of them is a number in floating point.** -/
theorem float_of_display_eq {a b : Value} (hplain : a.isPlain = true) (hplain' : b.isPlain = true)
    (hpa : PassesAsKey a) (hpb : PassesAsKey b) (hne : a.equals b = false)
    (h : a.display = b.display) : (∃ x, a = .float x) ∨ ∃ x, b = .float x := by
  have hscalar := Value.isScalar_of_isPlain hplain'
  rcases Value.exists_look?_of_isScalar (Value.isScalar_of_isPlain hplain) with
    ⟨s, rfl⟩ | ha | ⟨look, ha⟩
  · rcases Value.exists_look?_of_isScalar hscalar with ⟨t, rfl⟩ | hb | ⟨look, hb⟩
    · obtain rfl : s = t := h
      rw [Value.equals_text_iff.mpr rfl] at hne
      cases hne
    · exact .inr hb
    · exact absurd h (hpa.display_ne hb)
  · exact .inl ha
  · rcases Value.exists_look?_of_isScalar hscalar with ⟨t, rfl⟩ | hb | ⟨look', hb⟩
    · exact absurd h.symm (hpb.display_ne ha)
    · exact .inr hb
    · obtain rfl := Value.eq_of_display_eq ha hb hplain hplain' h
      rw [Value.equals_self_of_look? ha] at hne
      cases hne

/-! ## Checked catalogs -/

theorem apply_of_load_eq_ok (h : (load reader files path checked).answer = .ok templates)
    (p : Provider) :
    (apply p reader files path checked).1 = p.setTemplates templates ∧
      (apply p reader files path checked).2.answer = .ok templates.length := by
  simp only [apply, h, and_self]

/-- **What a checked catalog loads to**: every template is text, and each code that a key reads as
is there once, in the place of the first such key and with the text of the last. Setting the
templates gives the number of codes, which is the number of entries exactly if the entries are there
as they stand in the file, and that is so exactly if no two keys read the same. Where two do, one of
them is a number in floating point. -/
theorem load_checked (hreader : reader.IsKeyed)
    (h : (load reader files path true).answer = .ok templates) : ∃ v entries,
    read reader files path = .ok (.document v) ∧ templateEntries? v = some entries ∧
      (∀ e ∈ entries, ∃ s, e.2 = .text s) ∧
      templates.keys = (codes entries).eraseDups ∧
      (∀ code, templates.get? code = Table.last? code (entries.map shown)) ∧
      (∀ p, (apply p reader files path true).2.answer = .ok templates.length) ∧
      (templates.length = entries.length ↔ templates = entries.map shown) ∧
      (templates = entries.map shown ↔ (codes entries).Nodup) ∧
      entries.Pairwise fun e e' => e.1.display = e'.1.display →
        (∃ x, e.1 = .float x) ∨ ∃ x, e'.1 = .float x := by
  have happly := fun p => (apply_of_load_eq_ok h p).2
  obtain ⟨hvalid, v, entries, hread, hentries, hwritten⟩ := load_eq_ok_iff.mp h
  obtain ⟨-, rfl⟩ := writeTemplates_eq_ok_iff.mp hwritten
  -- nothing was found in the document, so it is laid out
  obtain ⟨top, laid, hmapping, hlaid⟩ := validate_eq_nil_iff.mp (hvalid rfl)
  obtain rfl := Reading.document.inj (Except.ok.inj (hread.symm.trans hmapping))
  obtain rfl := Option.some.inj (hentries.symm.trans hlaid.templateEntries?_eq)
  have hkeys := distinctKeys_templateEntries (keyed_of_read hreader hread) hentries
  have hsame : Table.overlay [] (entries.map shown) = entries.map shown ↔
      (codes entries).Nodup := by
    rw [Table.overlay_nil_eq_iff, keys_map_shown]
  have hlength : (Table.overlay [] (entries.map shown)).length = entries.length ↔
      (codes entries).Nodup := by
    rw [← List.length_map shown, Table.length_overlay_nil_eq_iff,
      keys_map_shown]
  refine ⟨_, entries, hread, hentries, hlaid.texts, ?_, fun code => ?_, happly,
    hlength.trans hsame.symm, hsame, ?_⟩
  · rw [Table.keys_overlay_nil, keys_map_shown]
  · rw [Table.get?_overlay, Table.get?_nil, Option.or_none]
  · refine hkeys.distinct.imp_of_mem fun he he' hne hdisplay => ?_
    exact float_of_display_eq (hkeys.isPlain _ he) (hkeys.isPlain _ he') (hlaid.keys _ he)
      (hlaid.keys _ he') hne hdisplay

/-- A number in floating point and a text that reads the same, and a third key. -/
def twiceFiles : Folder :=
  [(["codes.yaml"], "templates:\n  1.5: first\n  '1.5': second\n  a.b: third\n".toUTF8)]

def twicePath : Path := ⟨"", ["codes.yaml"]⟩

/-- The templates of the file as they stand there. -/
theorem exists_entries_twice : ∃ v entries,
    read Yaml.Document.reader twiceFiles twicePath = .ok (.document v) ∧
      templateEntries? v = some entries ∧
      entries.map shown = [("1.5", "first"), ("1.5", "second"), ("a.b", "third")] := by
  have hshown : (readEntries? Yaml.Document.reader twiceFiles twicePath).map (·.map shown) =
      some [("1.5", "first"), ("1.5", "second"), ("a.b", "third")] := by
    decide +kernel
  obtain ⟨entries, hentries, hshown⟩ := Option.map_eq_some_iff.mp hshown
  obtain ⟨v, hread, hv⟩ := exists_of_readEntries? hentries
  exact ⟨v, entries, hread, hv, hshown⟩

theorem load_twice :
    (load Yaml.Document.reader twiceFiles twicePath true).answer =
      .ok [("1.5", "second"), ("a.b", "third")] := by
  decide +kernel

/-- The file has three templates, and its two codes are what it loads to. -/
theorem load_checked_twice : ∃ v entries templates,
    (load Yaml.Document.reader twiceFiles twicePath true).answer = .ok templates ∧
      read Yaml.Document.reader twiceFiles twicePath = .ok (.document v) ∧
      templateEntries? v = some entries ∧
      codes entries = ["1.5", "1.5", "a.b"] ∧ templates.keys = (codes entries).eraseDups ∧
      templates.get? "1.5" = Table.last? "1.5" (entries.map shown) ∧
      templates.length ≠ entries.length := by
  obtain ⟨v, entries, hread, hentries, hshown⟩ := exists_entries_twice
  obtain ⟨v', entries', hread', hentries', -, hkeys, hget, -, hlength, hnodup, -⟩ :=
    load_checked Yaml.Document.isKeyed_reader load_twice
  obtain rfl := Reading.document.inj (Except.ok.inj (hread.symm.trans hread'))
  obtain rfl := Option.some.inj (hentries.symm.trans hentries')
  have hcodes : codes entries = ["1.5", "1.5", "a.b"] := by
    rw [← keys_map_shown, hshown]
    rfl
  refine ⟨v, entries, _, load_twice, hread, hentries, hcodes, hkeys, hget _, fun h => ?_⟩
  exact absurd (hnodup.mp (hlength.mp h)) (by rw [hcodes]; decide)

/-- A template is lost: the file has three, is found to be in order, and is applied as two. -/
theorem load_loses_template : ∃ v entries templates,
    read Yaml.Document.reader twiceFiles twicePath = .ok (.document v) ∧
      templateEntries? v = some entries ∧ entries.length = 3 ∧
      (load Yaml.Document.reader twiceFiles twicePath true).answer = .ok templates ∧
      templates.length = 2 ∧ (∀ e ∈ templates, e.2 ≠ "first") ∧
      ∀ p, (apply p Yaml.Document.reader twiceFiles twicePath true).2.answer = .ok 2 := by
  obtain ⟨v, entries, hread, hentries, hshown⟩ := exists_entries_twice
  refine ⟨v, entries, _, hread, hentries, ?_, load_twice, rfl, by decide, fun p => ?_⟩
  · rw [← List.length_map shown, hshown]
    rfl
  · exact (apply_of_load_eq_ok load_twice p).2

end Verdict.Catalog
