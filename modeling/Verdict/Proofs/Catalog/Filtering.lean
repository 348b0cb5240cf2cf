import Verdict.Proofs.Catalog.Loading

/-!
# Checking a catalog only filters

A catalog that is loaded with a check is read twice, first to be checked and then for its templates,
and the two readings are judged by two tests of their own: the layout, and whether there is a
mapping of templates at all. `load_filters` says that the first test is the stronger one. What it
lets through, the second lets through, too, with the templates that it would have given without a
check; so nothing is loaded otherwise for being checked, and what the second reading could still
complain of does not arise.

The folder may change between the two readings, as long as the file itself stays the same.
-/

namespace Verdict.Catalog

variable {reader : DocumentReader} {files files' : Folder} {path : Path}

/-! ## Two readings -/

/-- Only the content of the file decides what is read. -/
theorem read_congr (h : files'.read path = files.read path) :
    read reader files' path = read reader files path := by
  rw [read, read, h]

theorem loadUnchecked_congr (h : files'.read path = files.read path) :
    loadUnchecked reader files' path = loadUnchecked reader files path := by
  rw [loadUnchecked, loadUnchecked, read_congr h]

/-- **Checking only filters**: let the file at a path be the same in two folders. What loads in the
first with a check is what loads in the second without one, if nothing is found in the file. Then
the second reading gives a document, and this has a mapping of templates, which are loaded unless
one of their keys cannot be written; loading and applying do the same with and without a check, to
the last record. -/
theorem load_filters (hsame : files'.read path = files.read path) :
    (∀ templates, (load reader files path true).answer = .ok templates ↔
      validate reader files path = .ok [] ∧
        (load reader files' path false).answer = .ok templates) ∧
    (validate reader files path = .ok [] →
      (∃ v entries, read reader files' path = .ok (.document v) ∧
        templateEntries? v = some entries ∧
        (load reader files' path false).answer =
          if Value.areWritable (entries.map (·.1)) then .ok (Table.overlay [] (entries.map shown))
          else .error .integerTooLong) ∧
      load reader files path true = load reader files' path false ∧
      ∀ p, apply p reader files path true = apply p reader files' path false) := by
  have hunchecked : load reader files' path false = loadUnchecked reader files path :=
    loadUnchecked_congr hsame
  refine ⟨fun templates => ?_, fun hvalid => ⟨?_, ?_, fun p => ?_⟩⟩
  · rw [hunchecked]
    constructor
    · intro h
      obtain ⟨hvalid, -⟩ := load_eq_ok_iff.mp h
      exact ⟨hvalid rfl, by rwa [load_of_validate_nil (hvalid rfl)] at h⟩
    · rintro ⟨hvalid, h⟩
      rwa [load_of_validate_nil hvalid]
  · rw [read_congr hsame, hunchecked]
    exact exists_entries_of_validate_nil hvalid
  · rw [hunchecked, load_of_validate_nil hvalid]
  · rw [apply, apply, hunchecked, load_of_validate_nil hvalid]

/-- A catalog with a description and two codes, one of them of the catalog of codes. -/
def describedFiles : Folder :=
  [(["codes.yaml"],
    "description: two\ntemplates:\n  string.not_blank: '{field}?'\n  a.b: two\n".toUTF8)]

/-- Another file has come to stand beside it. -/
theorem load_filters_described :
    let path : Path := ⟨"", ["codes.yaml"]⟩
    let later : Folder := (["notes.txt"], "templates: none".toUTF8) :: describedFiles
    later.read path = describedFiles.read path ∧
      (load Yaml.Document.reader describedFiles path true).answer =
        .ok [("string.not_blank", "{field}?"), ("a.b", "two")] ∧
      (load Yaml.Document.reader later path false).answer =
        .ok [("string.not_blank", "{field}?"), ("a.b", "two")] ∧
      (load Yaml.Document.reader later path false).logs = [.customCode "codes.yaml" "a.b"] ∧
      load Yaml.Document.reader describedFiles path true =
        load Yaml.Document.reader later path false := by
  intro path later
  have hsame : later.read path = describedFiles.read path := rfl
  have hload : (load Yaml.Document.reader describedFiles path true).answer =
      .ok [("string.not_blank", "{field}?"), ("a.b", "two")] := by
    decide +kernel
  obtain ⟨hiff, hsecond⟩ := load_filters hsame
  obtain ⟨hvalid, hunchecked⟩ := (hiff _).mp hload
  obtain ⟨-, hboth, -⟩ := hsecond hvalid
  exact ⟨hsame, hload, hunchecked, by decide +kernel, hboth⟩

end Verdict.Catalog
