import Verdict.Catalog
import Verdict.Proofs.Catalog.Order
import Verdict.Yaml.Document

/-!
# What the layout lets through

A document without violations is a mapping with templates and perhaps a description, which is text,
and nothing else; the templates are text, under keys that `PassesAsKey` (`violations_eq_nil_iff`).

The rule for keys is meant for dotted codes, and lets two kinds of keys through that are none: a
dotted code with one line feed behind it, and whatever is no text. `validate_eq_nil_iff` says so of
files: these are all the documents in which nothing is found, and nothing is found in any of them.
-/

namespace Verdict.Catalog

/-! ## Codes -/

theorem splitDots_eq_splitOn (cs : List Char) : splitDots cs = cs.splitOn '.' := by
  induction cs with
  | nil => rfl
  | cons c rest ih =>
    rw [List.splitOn_cons_eq_if_modifyHead]
    by_cases hdot : c = '.'
    · subst hdot
      rw [splitDots, ih]
      rfl
    · rw [if_neg (by simpa using hdot), splitDots, ih]
      · -- a split text has at least one part
        obtain ⟨part, parts, hsplit⟩ := List.exists_cons_of_ne_nil (List.splitOn_ne_nil '.' rest)
        rw [hsplit]
        rfl
      · exact hdot

/-- A dotted code: two or more parts, set apart by single dots. A part is made of letters, digits
and underscores and is not empty. -/
def Dotted (cs : List Char) : Prop :=
  ∃ parts : List (List Char), 2 ≤ parts.length ∧
    (∀ part ∈ parts, part ≠ [] ∧ ∀ c ∈ part, isCodeChar c = true) ∧
    cs = ['.'].intercalate parts

theorem isDotted_iff {cs : List Char} : isDotted cs = true ↔ Dotted cs := by
  have hparts (parts : List (List Char)) :
      (decide (2 ≤ parts.length) && parts.all fun part => !part.isEmpty && part.all isCodeChar) =
        true ↔ 2 ≤ parts.length ∧ ∀ part ∈ parts, part ≠ [] ∧ ∀ c ∈ part, isCodeChar c = true := by
    simp
  rw [isDotted, splitDots_eq_splitOn, hparts]
  constructor
  · rintro ⟨hlength, hcodes⟩
    exact ⟨_, hlength, hcodes, (List.intercalate_splitOn '.').symm⟩
  · rintro ⟨parts, hlength, hcodes, rfl⟩
    have hdots : ∀ part ∈ parts, '.' ∉ part := fun part hpart hdot =>
      absurd ((hcodes part hpart).2 '.' hdot) (by decide)
    have hne : parts ≠ [] := List.ne_nil_of_length_pos (by omega)
    rw [List.splitOn_intercalate '.' hdots hne]
    exact ⟨hlength, hcodes⟩

theorem mem_of_mem_intercalate {parts : List (List Char)} {c : Char}
    (h : c ∈ ['.'].intercalate parts) : c = '.' ∨ ∃ part ∈ parts, c ∈ part := by
  induction parts with
  | nil => cases h
  | cons part rest ih =>
    rcases rest with _ | ⟨second, rest⟩
    · rw [List.intercalate_singleton] at h
      exact .inr ⟨part, List.mem_cons_self, h⟩
    · rw [List.intercalate_cons_cons, List.mem_append, List.mem_append, List.mem_singleton] at h
      rcases h with (hpart | hdot) | hrest
      · exact .inr ⟨part, List.mem_cons_self, hpart⟩
      · exact .inl hdot
      · obtain hdot | ⟨other, hother, hc⟩ := ih hrest
        · exact .inl hdot
        · exact .inr ⟨other, List.mem_cons_of_mem _ hother, hc⟩

/-- A dotted code is made of dots and characters of codes, and a dot is among them. -/
theorem Dotted.chars {cs : List Char} (h : Dotted cs) :
    '.' ∈ cs ∧ ∀ c ∈ cs, c = '.' ∨ isCodeChar c = true := by
  obtain ⟨parts, hlength, hcodes, rfl⟩ := h
  refine ⟨?_, fun c hc => ?_⟩
  · match parts, hlength with
    | first :: second :: rest, _ => simp [List.intercalate_cons_cons]
  · obtain hdot | ⟨part, hpart, hin⟩ := mem_of_mem_intercalate hc
    · exact .inl hdot
    · exact .inr ((hcodes part hpart).2 c hin)

/-- What the layout lets through as the key of a template. -/
inductive PassesAsKey : Value → Prop
  | dotted {key : String} (h : Dotted key.toList) : PassesAsKey (.text key)
  /-- A line feed at the end is not seen. -/
  | dottedLine {key : String} {code : List Char} (h : Dotted code)
    (hkey : key.toList = code ++ ['\n']) : PassesAsKey (.text key)
  | noText {v : Value} (h : ∀ key, v ≠ .text key) : PassesAsKey v

/-- A text that passes as a key has a point and no space. -/
theorem PassesAsKey.chars {key : String} (h : PassesAsKey (.text key)) :
    '.' ∈ key.toList ∧ ' ' ∉ key.toList := by
  cases h with
  | dotted h =>
    refine ⟨h.chars.1, fun hspace => ?_⟩
    exact absurd (h.chars.2 _ hspace) (by decide)
  | dottedLine h hkey =>
    rw [hkey]
    refine ⟨List.mem_append_left _ h.chars.1, fun hspace => ?_⟩
    rcases List.mem_append.mp hspace with hcode | hline
    · exact absurd (h.chars.2 _ hcode) (by decide)
    · exact absurd hline (by decide)
  | noText h => exact absurd rfl (h key)

theorem acceptsKey_iff {key : String} : acceptsKey key = true ↔ PassesAsKey (.text key) := by
  have hline : key.toList.getLast? = some '\n' ∧ Dotted key.toList.dropLast ↔
      ∃ code, Dotted code ∧ key.toList = code ++ ['\n'] := by
    constructor
    · rintro ⟨hlast, hdotted⟩
      obtain ⟨code, hcode⟩ := List.getLast?_eq_some_iff.mp hlast
      rw [hcode, List.dropLast_concat] at hdotted
      exact ⟨code, hdotted, hcode⟩
    · rintro ⟨code, hdotted, hcode⟩
      rw [hcode, List.dropLast_concat, List.getLast?_concat]
      exact ⟨rfl, hdotted⟩
  rw [acceptsKey, Bool.or_eq_true, Bool.and_eq_true, beq_iff_eq, isDotted_iff, isDotted_iff, hline]
  constructor
  · rintro (hdotted | ⟨code, hdotted, hcode⟩)
    · exact .dotted hdotted
    · exact .dottedLine hdotted hcode
  · intro h
    cases h with
    | dotted h => exact .inl h
    | dottedLine h hkey => exact .inr ⟨_, h, hkey⟩
    | noText h => exact absurd rfl (h key)

/-! ## Violations -/

theorem textViolations_eq_nil_iff {place : List Value} {v : Value} :
    textViolations place v = [] ↔ ∃ s, v = .text s := by
  cases v with
  | text s => exact iff_of_true rfl ⟨s, rfl⟩
  | _ => exact iff_of_false (List.cons_ne_nil _ _) fun ⟨_, h⟩ => nomatch h

theorem keyViolations_eq_nil_iff {place : List Value} {v : Value} :
    keyViolations place v = [] ↔ PassesAsKey v := by
  cases v with
  | text key =>
    rw [← acceptsKey_iff, keyViolations]
    by_cases h : acceptsKey key = true
    · exact iff_of_true (if_pos h) h
    · rw [if_neg h]
      exact iff_of_false (List.cons_ne_nil _ _) h
  | _ => exact iff_of_true rfl (.noText fun _ h => nomatch h)

theorem templatesViolations_eq_nil_iff {place : List Value} {v : Value} :
    templatesViolations place v = [] ↔ ∃ templates, v = .mapping templates ∧
      ∀ e ∈ templates, PassesAsKey e.1 ∧ ∃ s, e.2 = .text s := by
  cases v with
  | mapping templates =>
    rw [templatesViolations, List.append_eq_nil_iff, List.flatMap_eq_nil_iff,
      List.flatMap_eq_nil_iff]
    simp only [keyViolations_eq_nil_iff, textViolations_eq_nil_iff]
    constructor
    · rintro ⟨hkeys, htexts⟩
      exact ⟨templates, rfl, fun e he => ⟨hkeys e he, htexts e he⟩⟩
    · rintro ⟨_, heq, h⟩
      obtain rfl := Value.mapping.inj heq
      exact ⟨fun e he => (h e he).1, fun e he => (h e he).2⟩
  | _ => exact iff_of_false (List.cons_ne_nil _ _) fun ⟨_, h, _⟩ => nomatch h

theorem unknownKeys_eq_nil_iff {entries : List (Value × Value)} : unknownKeys entries = [] ↔
    ∀ e ∈ entries, e.1 = .text descriptionKey ∨ e.1 = .text templatesKey := by
  have hknown (key : Value) :
      ¬(!key.equals (.text descriptionKey) && !key.equals (.text templatesKey)) = true ↔
        key = .text descriptionKey ∨ key = .text templatesKey := by
    rw [← Value.equals_text_iff, ← Value.equals_text_iff]
    cases key.equals (.text descriptionKey) <;> cases key.equals (.text templatesKey) <;> decide
  simp only [unknownKeys, List.filter_eq_nil_iff, List.forall_mem_map, hknown]

theorem unknownViolations_eq_nil_iff {keys : List Value} :
    unknownViolations keys = [] ↔ keys = [] := by
  rw [unknownViolations]
  cases keys with
  | nil => exact iff_of_true rfl rfl
  | cons key rest => exact iff_of_false (List.cons_ne_nil _ _) (List.cons_ne_nil _ _)

theorem entryViolations_eq_nil_iff {key : String} {check : List Value → Value → List Violation}
    {entries : List (Value × Value)} : entryViolations key check entries = [] ↔
      ∀ v, Value.lookup? (.text key) entries = some v → check [.text key] v = [] := by
  rw [entryViolations]
  rcases Value.lookup? (.text key) entries with _ | v
  · exact iff_of_true rfl fun _ h => nomatch h
  · simp

/-- A mapping keeps to the layout, as far as that is checked, and has these templates. -/
structure LaidOut (entries templates : List (Value × Value)) : Prop where
  known : ∀ e ∈ entries, e.1 = .text descriptionKey ∨ e.1 = .text templatesKey
  description : ∀ v, Value.lookup? (.text descriptionKey) entries = some v → ∃ s, v = .text s
  found : Value.lookup? (.text templatesKey) entries = some (.mapping templates)
  keys : ∀ e ∈ templates, PassesAsKey e.1
  texts : ∀ e ∈ templates, ∃ s, e.2 = .text s

theorem LaidOut.templateEntries?_eq {entries templates : List (Value × Value)}
    (h : LaidOut entries templates) : templateEntries? (.mapping entries) = some templates := by
  rw [templateEntries?, h.found]

/-- **What is laid out has no violations**, and nothing else has none. -/
theorem violations_eq_nil_iff {v : Value} : violations v = [] ↔
    ∃ entries templates, v = .mapping entries ∧ LaidOut entries templates := by
  cases v with
  | mapping entries =>
    simp only [violations, List.append_eq_nil_iff, unknownViolations_eq_nil_iff,
      unknownKeys_eq_nil_iff, entryViolations_eq_nil_iff, textViolations_eq_nil_iff,
      templatesViolations_eq_nil_iff]
    constructor
    · rintro ⟨⟨⟨hrequired, hknown⟩, hdescription⟩, htemplates⟩
      rcases hfound : Value.lookup? (.text templatesKey) entries with _ | v
      · rw [hfound] at hrequired
        cases hrequired
      · obtain ⟨templates, rfl, hentries⟩ := htemplates v hfound
        exact ⟨entries, templates, rfl, hknown, hdescription, hfound,
          fun e he => (hentries e he).1, fun e he => (hentries e he).2⟩
    · rintro ⟨_, templates, heq, h⟩
      obtain rfl := Value.mapping.inj heq
      refine ⟨⟨⟨?_, h.known⟩, h.description⟩, fun v hv => ?_⟩
      · rw [h.found]
        rfl
      · obtain rfl := Option.some.inj (h.found.symm.trans hv)
        exact ⟨templates, rfl, fun e he => ⟨h.keys e he, h.texts e he⟩⟩
  | _ => exact iff_of_false (List.cons_ne_nil _ _) fun ⟨_, _, h, _⟩ => nomatch h

/-! ## Files -/

variable {reader : DocumentReader} {files : Folder} {path : Path}

/-- Nothing is found in a document exactly if it has no violations. -/
theorem issuesOf_eq_nil_iff {v : Value} :
    issuesOf path v = .ok [] ↔ violations v = [] := by
  rw [issuesOf]
  constructor
  · intro h
    obtain ⟨_, -, h⟩ := exists_of_bind_eq_ok h
    obtain ⟨sorted, hsorted, h⟩ := exists_of_bind_eq_ok h
    obtain ⟨_, -, h⟩ := exists_of_bind_eq_ok h
    obtain rfl := List.map_eq_nil_iff.mp (Except.ok.inj h)
    exact List.nil_perm.mp (perm_of_inOrder hsorted)
  · intro h
    rw [h]
    rfl

theorem validate_eq_nil_iff_violations : validate reader files path = .ok [] ↔
    ∃ v, read reader files path = .ok (.document v) ∧ violations v = [] := by
  rw [validate]
  rcases read reader files path with fault | ⟨v⟩ | ⟨issue⟩
  · exact iff_of_false (fun h => nomatch h) fun ⟨_, h, _⟩ => nomatch h
  · refine issuesOf_eq_nil_iff.trans ⟨fun h => ⟨v, rfl, h⟩, ?_⟩
    rintro ⟨_, heq, h⟩
    cases heq
    exact h
  · exact iff_of_false (fun h => nomatch h) fun ⟨_, h, _⟩ => nomatch h

/-- The entries of the templates in a file. -/
def readEntries? (reader : DocumentReader) (files : Folder) (path : Path) :
    Option (List (Value × Value)) :=
  match read reader files path with
  | .ok (.document v) => templateEntries? v
  | _ => none

theorem exists_of_readEntries? {entries : List (Value × Value)}
    (h : readEntries? reader files path = some entries) :
    ∃ v, read reader files path = .ok (.document v) ∧ templateEntries? v = some entries := by
  rw [readEntries?] at h
  split at h
  next v hread => exact ⟨v, hread, h⟩
  next => cases h

/-- **What checking a catalog makes sure of**: nothing is found in a file exactly if it holds a
mapping that has templates and perhaps a description and nothing else, the description is text, the
templates are a mapping to texts, and each key that is text is a dotted code, not counting one line
feed at its end. Keys that are no text are not looked at. -/
theorem validate_eq_nil_iff : validate reader files path = .ok [] ↔
    ∃ entries templates, read reader files path = .ok (.document (.mapping entries)) ∧
      LaidOut entries templates := by
  rw [validate_eq_nil_iff_violations]
  constructor
  · rintro ⟨v, hread, hnone⟩
    obtain ⟨entries, templates, rfl, h⟩ := violations_eq_nil_iff.mp hnone
    exact ⟨entries, templates, hread, h⟩
  · rintro ⟨entries, templates, hread, h⟩
    exact ⟨_, hread, violations_eq_nil_iff.mpr ⟨entries, templates, rfl, h⟩⟩

/-- A dotted code with a line feed behind it, and an integer. -/
def looseFiles : Folder := [(["codes.yaml"], "templates:\n  \"a.b\\n\": one\n  5: two\n".toUTF8)]

def loosePath : Path := ⟨"", ["codes.yaml"]⟩

/-- Nothing is found in the file, and neither of its keys is a dotted code. -/
theorem validate_accepts_loose : validate Yaml.Document.reader looseFiles loosePath = .ok [] ∧
    ∃ v entries, read Yaml.Document.reader looseFiles loosePath = .ok (.document v) ∧
      templateEntries? v = some entries ∧
      (∃ e ∈ entries, ∃ key, e.1 = .text key ∧ ¬ Dotted key.toList) ∧
      ∃ e ∈ entries, ∀ key, e.1 ≠ .text key := by
  have hkeys : (readEntries? Yaml.Document.reader looseFiles loosePath).map
      (·.map fun e => (e.1.scale?, e.1.display)) =
        some [(some .texts, "a.b\n"), (some .numbers, "5")] := by
    decide +kernel
  obtain ⟨entries, hentries, hkeys⟩ := Option.map_eq_some_iff.mp hkeys
  obtain ⟨v, hread, hv⟩ := exists_of_readEntries? hentries
  obtain ⟨line, rest, rfl, hline, hrest⟩ := List.map_eq_cons_iff.mp hkeys
  obtain ⟨number, _, rfl, hnumber, -⟩ := List.map_eq_cons_iff.mp hrest
  obtain ⟨hscale, hdisplay⟩ := Prod.mk.inj hline
  refine ⟨by decide +kernel, v, _, hread, hv, ⟨line, List.mem_cons_self, _,
    Value.eq_text_of_scale?_eq hscale, ?_⟩, number, List.mem_cons_of_mem _ List.mem_cons_self, ?_⟩
  · rw [hdisplay, ← isDotted_iff]
    decide
  · intro key hkey
    rw [hkey] at hnumber
    cases hnumber

end Verdict.Catalog
