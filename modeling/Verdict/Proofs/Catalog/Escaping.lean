import Verdict.Proofs.Catalog.Loading

/-!
# Faults that loading does not report

A file that cannot be loaded is refused with its issues: one that cannot be opened, one that the
reader finds malformed, one that is empty, and one without templates. What else goes wrong is no
issue but a fault of its own: a path that no file can have, whatever the reader ends in that it does
not call malformed, and a template that cannot be written. `load_reports` says for every reader that
there is nothing else, and `load_raises_unreported` has files that a reader ends in such faults on.
-/

namespace Verdict.Catalog

/-- The issue that loading makes of a file without a document. -/
inductive Reported (reader : DocumentReader) (files : Folder) (path : Path) : Issue → Prop
  /-- The file cannot be opened. -/
  | unopened {problem : FileProblem} (hpath : '\x00' ∉ path.text.toList)
    (h : files.read path = .error problem) :
    Reported reader files path (wholeIssue path ("Cannot read file: " ++ problem.text path))
  /-- The reader finds the content malformed. -/
  | malformed {content : ByteArray} {words : String} (hpath : '\x00' ∉ path.text.toList)
    (hcontent : files.read path = .ok content) (h : reader content = .error (.malformed words)) :
    Reported reader files path (wholeIssue path ("YAML parse error: " ++ words))
  /-- There is nothing in the file. -/
  | empty {content : ByteArray} (hpath : '\x00' ∉ path.text.toList)
    (hcontent : files.read path = .ok content) (h : reader content = .ok .null) :
    Reported reader files path (wholeIssue path "File is empty or contains only whitespace")

/-- What loading ends in and makes no issue of. -/
inductive Escapes (reader : DocumentReader) (files : Folder) (path : Path) : Fault → Prop
  /-- No file can have the path. -/
  | path (h : '\x00' ∈ path.text.toList) : Escapes reader files path .pathWithNul
  /-- The reader makes no document of the content and does not find it malformed. -/
  | reader {content : ByteArray} {fault : Fault} (hpath : '\x00' ∉ path.text.toList)
    (hcontent : files.read path = .ok content) (h : reader content = .error (.raised fault)) :
    Escapes reader files path fault
  /-- A template or its key has an integer in it that cannot be written. -/
  | templates {v : Value} {entries : List (Value × Value)}
    (hread : read reader files path = .ok (.document v))
    (hentries : templateEntries? v = some entries)
    (h : Value.areWritableEntries entries = false) : Escapes reader files path .integerTooLong

variable {reader : DocumentReader} {files : Folder} {path : Path}

/-! ## Reading -/

/-- A file that can be opened holds what the reader finds in it. -/
theorem read_of_content {content : ByteArray} (hpath : '\x00' ∉ path.text.toList)
    (hcontent : files.read path = .ok content) :
    read reader files path = Reading.ofReader path (reader content) := by
  rw [read, if_neg (by simpa using hpath), hcontent]

theorem Reported.read_eq {issue : Issue} (h : Reported reader files path issue) :
    read reader files path = .ok (.unreadable issue) := by
  cases h with
  | unopened hpath h => rw [read, if_neg (by simpa using hpath), h]
  | malformed hpath hcontent h => rw [read_of_content hpath hcontent, h, Reading.ofReader]
  | empty hpath hcontent h => rw [read_of_content hpath hcontent, h, Reading.ofReader]

/-- A fault in reading is of the path or the reader's. -/
theorem escapes_of_read {fault : Fault} (h : read reader files path = .error fault) :
    Escapes reader files path fault := by
  by_cases hpath : '\x00' ∈ path.text.toList
  · rw [read, if_pos (by simpa using hpath)] at h
    obtain rfl := Except.error.inj h
    exact .path hpath
  rcases hcontent : files.read path with problem | content
  · rw [(Reported.unopened hpath hcontent).read_eq] at h
    cases h
  · rw [read_of_content hpath hcontent] at h
    rcases hreader : reader content with (words | other) | v
    · rw [hreader] at h
      cases h
    · rw [hreader] at h
      obtain rfl := Except.error.inj h
      exact .reader hpath hcontent hreader
    · rw [hreader] at h
      cases v <;> cases h

/-! ## Loading -/

theorem Escapes.loadUnchecked_eq {fault : Fault} (h : Escapes reader files path fault) :
    (loadUnchecked reader files path).answer = .error fault := by
  cases h with
  | path hpath =>
    rw [loadUnchecked, read, if_pos (by simpa using hpath)]
  | reader hpath hcontent h =>
    rw [loadUnchecked, read_of_content hpath hcontent, h, Reading.ofReader]
  | templates hread hentries h =>
    rw [loadUnchecked_of_entries hread hentries, writeTemplates_eq, h, if_neg Bool.false_ne_true]

theorem Reported.loadUnchecked_eq {issue : Issue} (h : Reported reader files path issue) :
    (loadUnchecked reader files path).answer = .error (.catalogInvalid path.text [issue]) := by
  rw [loadUnchecked, h.read_eq]
  rfl

/-- What loading makes of a file: templates, or issues, or something escapes. -/
theorem loadUnchecked_cases (reader : DocumentReader) (files : Folder) (path : Path) :
    (∃ templates, (loadUnchecked reader files path).answer = .ok templates) ∨
      (∃ issues, issues ≠ [] ∧
        (loadUnchecked reader files path).answer = .error (.catalogInvalid path.text issues)) ∨
      ∃ fault, Escapes reader files path fault := by
  rcases hread : read reader files path with fault | ⟨v⟩ | ⟨issue⟩
  · exact .inr (.inr ⟨fault, escapes_of_read hread⟩)
  · rcases hentries : templateEntries? v with _ | entries
    · refine .inr (.inl ⟨[wholeIssue path "Missing 'templates' mapping"],
        List.cons_ne_nil _ _, ?_⟩)
      simp only [loadUnchecked, hread, hentries, Option.map_none]
    · rcases hwritable : Value.areWritableEntries entries with _ | _
      · exact .inr (.inr ⟨_, .templates hread hentries hwritable⟩)
      · have hwritten := writeTemplates_eq_ok_iff.mpr ⟨hwritable, rfl⟩
        exact .inl ⟨_, (loadUnchecked_of_entries hread hentries).trans hwritten⟩
  · refine .inr (.inl ⟨[issue], List.cons_ne_nil _ _, ?_⟩)
    rw [loadUnchecked, hread]
    rfl

/-- **What loading reports**, whatever the reader: a file that cannot be opened, that the reader
finds malformed or that is empty is refused with the issue that says so. Of any file, loading it
without a look at the layout gives templates, or refuses it with issues, or something escapes; and
what escapes is what loading ends in. -/
theorem load_reports (reader : DocumentReader) (files : Folder) (path : Path) :
    let answer := (load reader files path false).answer
    (∀ issue, Reported reader files path issue →
      answer = .error (.catalogInvalid path.text [issue])) ∧
    (∀ fault, Escapes reader files path fault → answer = .error fault) ∧
    ((∃ templates, answer = .ok templates) ∨
      (∃ issues, issues ≠ [] ∧ answer = .error (.catalogInvalid path.text issues)) ∨
      ∃ fault, Escapes reader files path fault) :=
  ⟨fun _ => Reported.loadUnchecked_eq, fun _ => Escapes.loadUnchecked_eq,
    loadUnchecked_cases reader files path⟩

/-- Bytes that are no text, an escape for a character beyond the last one, a date that does not
exist, a prefix without digits, and a tag for truth values at a text that is none. -/
def brokenFiles : Folder :=
  [(["bytes.yaml"], ⟨#[0xff]⟩),
    (["escape.yaml"], "templates:\n  a.b: \"\\U00110000\"\n".toUTF8),
    (["date.yaml"], "templates:\n  a.b: 2024-13-01\n".toUTF8),
    (["digits.yaml"], "templates:\n  a.b: 0x_\n".toUTF8),
    (["tag.yaml"], "templates:\n  a.b: !!bool maybe\n".toUTF8)]

/-- A file that is not there is reported. What the reader makes of bytes that are no text is not. -/
theorem load_reports_absent :
    let absent := Path.ofText "absent.yaml"
    let bytes := Path.ofText "bytes.yaml"
    brokenFiles.read absent = .error .absent ∧
      (load Yaml.Document.reader brokenFiles absent false).answer =
        .error (.catalogInvalid "absent.yaml" [⟨"absent.yaml",
          "Cannot read file: [Errno 2] No such file or directory: 'absent.yaml'", ""⟩]) ∧
      Yaml.Document.reader ⟨#[0xff]⟩ = .error (.raised .undecodable) ∧
      (load Yaml.Document.reader brokenFiles bytes false).answer = .error .undecodable := by
  intro absent bytes
  have habsent : brokenFiles.read absent = .error .absent := by
    decide +kernel
  have hissue : wholeIssue absent ("Cannot read file: " ++ FileProblem.absent.text absent) =
      ⟨"absent.yaml", "Cannot read file: [Errno 2] No such file or directory: 'absent.yaml'", ""⟩ :=
    by decide +kernel
  have htext : absent.text = "absent.yaml" := by
    decide +kernel
  have hbytes : Yaml.Document.reader ⟨#[0xff]⟩ = .error (.raised .undecodable) := by
    rfl
  obtain ⟨hreported, -⟩ := load_reports Yaml.Document.reader brokenFiles absent
  obtain ⟨-, hescapes, -⟩ := load_reports Yaml.Document.reader brokenFiles bytes
  have hrefused := hreported _ (.unopened (by decide +kernel) habsent)
  rw [hissue, htext] at hrefused
  exact ⟨habsent, hrefused, hbytes,
    hescapes _ (.reader (by decide +kernel) (by rfl) hbytes)⟩

/-- Of none of the files it is said what is wrong with it. -/
theorem load_raises_unreported :
    let fault? (name : String) :=
      (load Yaml.Document.reader brokenFiles (Path.ofText name) false).answer
    fault? "bytes.yaml" = .error .undecodable ∧
      fault? "escape.yaml" = .error .characterOutOfRange ∧
      fault? "date.yaml" = .error .monthOutOfRange ∧
      fault? "digits.yaml" = .error (.digitsMissing 16 "''") ∧
      fault? "tag.yaml" = .error .missingKey := by
  decide +kernel

end Verdict.Catalog
