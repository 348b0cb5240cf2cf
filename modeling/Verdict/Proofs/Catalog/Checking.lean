import Verdict.Proofs.Catalog.Loading

/-!
# What checking a catalog reports

Checking lists what a document does against the layout, in the order of the places. Only the places
of templates that are no text have keys of the document in them, and these keys can be of any kind
(`violations_eq`). So there is an answer exactly if the keys of these templates are comparable, and
it then has all there is to report (`validate_reports`). If two of them are not, then neither
checking nor loading gives an answer. Nor is there one if the report would have to show an integer
that cannot be written: a template that is none, or the key of such a template.
-/

namespace Verdict.Catalog

variable {reader : DocumentReader} {files : Folder} {path : Path} {x y : Violation}
  {e e' : Value × Value} {entries : List (Value × Value)}

/-! ## Misfits -/

/-- The entries of the templates of a document whose template is no text. -/
def misfits (v : Value) : List (Value × Value) :=
  ((templateEntries? v).getD []).filter fun e => !e.2.isText

/-- What an entry whose template is no text does against the layout. -/
def misfit (e : Value × Value) : Violation :=
  ⟨[.text templatesKey, e.1], [e.2], e.2.term ++ " is not of type 'string'"⟩

/-- The places of all else that can be against the layout. -/
inductive General : List Value → Prop where
  | document : General []
  | description : General [.text descriptionKey]
  | templates : General [.text templatesKey]

theorem flatMap_textViolations (entries : List (Value × Value)) :
    (entries.flatMap fun e => textViolations ([.text templatesKey] ++ [e.1]) e.2) =
      (entries.filter fun e => !e.2.isText).map misfit := by
  induction entries with
  | nil => rfl
  | cons e rest ih =>
    obtain ⟨key, value⟩ := e
    rw [List.flatMap_cons, ih]
    cases value <;> rfl

/-! ### Places -/

theorem General.isWritable {place : List Value} (h : General place) :
    ∀ v ∈ place, v.isWritable = true := by
  rw [← Value.areWritable_iff]
  cases h <;> rfl

theorem place_of_mem_textViolations {place : List Value} {v : Value}
    (hx : x ∈ textViolations place v) : x.place = place := by
  cases v with
  | text s => cases hx
  | _ => rw [List.mem_singleton.mp hx]

theorem place_of_mem_keyViolations {place : List Value} {v : Value}
    (hx : x ∈ keyViolations place v) : x.place = place := by
  cases v with
  | text key =>
    rw [keyViolations] at hx
    split at hx
    next => cases hx
    next => rw [List.mem_singleton.mp hx]
  | _ => cases hx

theorem place_of_mem_unknownViolations {keys : List Value} (hx : x ∈ unknownViolations keys) :
    x.place = [] := by
  rw [unknownViolations] at hx
  split at hx
  next => cases hx
  next => rw [List.mem_singleton.mp hx]

/-- What the templates do against the layout: something in general, and the misfits. -/
theorem templatesViolations_eq (top : List (Value × Value)) : ∃ general,
    entryViolations templatesKey templatesViolations top =
        general ++ (misfits (.mapping top)).map misfit ∧
      ∀ x ∈ general, x.place = [.text templatesKey] := by
  rw [entryViolations, misfits, templateEntries?]
  rcases Value.lookup? (.text templatesKey) top with _ | found
  · exact ⟨[], rfl, fun _ hx => (List.not_mem_nil hx).elim⟩
  · cases found with
    | mapping entries =>
      refine ⟨_, congrArg (_ ++ ·) (flatMap_textViolations entries), fun x hx => ?_⟩
      obtain ⟨e, -, hkey⟩ := List.mem_flatMap.mp hx
      exact place_of_mem_keyViolations hkey
    | _ =>
      refine ⟨_, (List.append_nil _).symm, fun x hx => ?_⟩
      rw [List.mem_singleton.mp hx]

/-- **Only misfits have keys of the document in their places.** -/
theorem violations_eq (v : Value) : ∃ general, violations v = general ++ (misfits v).map misfit ∧
    ∀ x ∈ general, General x.place := by
  cases v with
  | mapping top =>
    obtain ⟨general, htemplates, hgeneral⟩ := templatesViolations_eq top
    refine ⟨_, by rw [violations, htemplates, ← List.append_assoc], fun x hx => ?_⟩
    simp only [List.mem_append] at hx
    rcases hx with ((hmissing | hunknown) | hdescription) | htemplates
    · split at hmissing
      next =>
        rw [List.mem_singleton.mp hmissing]
        exact .document
      next => cases hmissing
    · rw [place_of_mem_unknownViolations hunknown]
      exact .document
    · rw [entryViolations] at hdescription
      split at hdescription
      next =>
        rw [place_of_mem_textViolations hdescription]
        exact .description
      next => cases hdescription
    · rw [hgeneral x htemplates]
      exact .templates
  | _ =>
    refine ⟨_, (List.append_nil _).symm, fun x hx => ?_⟩
    rw [List.mem_singleton.mp hx]
    exact .document

/-! ## Places in order -/

theorem exists_isBefore_general (hx : General x.place) (hy : General y.place) :
    ∃ b, isBefore x y = .ok b := by
  obtain ⟨place, quotes, message⟩ := x
  obtain ⟨place', quotes', message'⟩ := y
  cases hx <;> cases hy <;>
    exact ⟨_, rfl⟩

theorem exists_isBefore_general_misfit (hx : General x.place) (e : Value × Value) :
    ∃ b, isBefore x (misfit e) = .ok b := by
  obtain ⟨place, quotes, message⟩ := x
  cases hx <;> exact ⟨_, rfl⟩

/-- A misfit comes before nothing general. -/
theorem isBefore_misfit_general (e : Value × Value) (hy : General y.place) :
    isBefore (misfit e) y = .ok false := by
  obtain ⟨place, quotes, message⟩ := y
  cases hy <;> rfl

/-- Two misfits are in the order of their keys. -/
theorem isBefore_misfit (e e' : Value × Value) : isBefore (misfit e) (misfit e') =
    if e.1.equals e'.1 then .ok false else (e.1.compare? e'.1).map Relation.below.holds := by
  simp only [isBefore, misfit, Value.related, Value.compare?, Value.compareEach, Value.equals,
    beq_self_eq_true, if_true]
  split <;> rfl

theorem exists_isBefore_misfit (h : Value.Comparable e.1 e'.1) :
    ∃ b, isBefore (misfit e) (misfit e') = .ok b := by
  rw [isBefore_misfit]
  by_cases hequals : e.1.equals e'.1 = true
  · exact ⟨_, if_pos hequals⟩
  · obtain ⟨o, ho⟩ := h.resolve_left hequals
    rw [if_neg hequals, ho]
    exact ⟨_, rfl⟩

theorem isBefore_misfit_eq_error (he : e.1.isScalar = true) (he' : e'.1.isScalar = true)
    (h : e.1.scale? ≠ e'.1.scale?) : isBefore (misfit e) (misfit e') = .error .unsupported := by
  rw [isBefore_misfit, Value.equals_eq_false_of_scale?_ne he he' h,
    Value.compare?_of_scale?_ne he he' h]
  rfl

/-- The keys of the entries are comparable, each with each. -/
def Sortable (entries : List (Value × Value)) : Prop :=
  ∀ e ∈ entries, ∀ e' ∈ entries, Value.Comparable e.1 e'.1

/-- The scales of the keys. -/
def scales (entries : List (Value × Value)) : List (Option Value.Scale) :=
  entries.map fun e => e.1.scale?

theorem sortable_iff (h : ∀ e ∈ entries, e.1.isScalar = true) :
    Sortable entries ↔ ∀ s ∈ scales entries, ∀ s' ∈ scales entries, s = s' := by
  simp only [scales, List.forall_mem_map]
  constructor
  · intro hs e he e' he'
    exact (Value.comparable_iff_scale?_eq (h e he) (h e' he')).mp (hs e he e' he')
  · intro hs e he e' he'
    exact (Value.comparable_iff_scale?_eq (h e he) (h e' he')).mpr (hs e he e' he')

/-- If one more entry makes entries unsortable, its key is not on the scale of all the others. -/
theorem exists_scale?_ne_of_not_sortable {before : List (Value × Value)}
    (hkeys : ∀ e' ∈ before ++ [e], e'.1.isScalar = true) (h : ¬ Sortable (before ++ [e])) :
    ∃ e' ∈ before, e.1.scale? ≠ e'.1.scale? := by
  by_contra! hsame
  have hscale : ∀ s ∈ scales (before ++ [e]), s = e.1.scale? := by
    simp only [scales, List.forall_mem_map, List.forall_mem_append, List.forall_mem_singleton]
    exact ⟨fun e' he' => (hsame e' he').symm, trivial⟩
  exact h ((sortable_iff hkeys).mpr fun s hs t ht => (hscale s hs).trans (hscale t ht).symm)

variable {general : List Violation}

/-- Sortable misfits can be put in order, whatever else there is. -/
theorem exists_inOrder_of_sortable (hgeneral : ∀ x ∈ general, General x.place)
    (h : Sortable entries) : ∃ vs, inOrder (general ++ entries.map misfit) = .ok vs := by
  refine exists_inOrder fun x hx y hy => ?_
  rcases List.mem_append.mp hx with hx | hx
  · rcases List.mem_append.mp hy with hy | hy
    · exact exists_isBefore_general (hgeneral x hx) (hgeneral y hy)
    · obtain ⟨e, -, rfl⟩ := List.mem_map.mp hy
      exact exists_isBefore_general_misfit (hgeneral x hx) e
  · obtain ⟨e, he, rfl⟩ := List.mem_map.mp hx
    rcases List.mem_append.mp hy with hy | hy
    · exact ⟨_, isBefore_misfit_general e (hgeneral y hy)⟩
    · obtain ⟨e', he', rfl⟩ := List.mem_map.mp hy
      exact exists_isBefore_misfit (h e he e' he')

/-- Of misfits that are not sortable, the first one that has no order with those before it ends the
work: it passes all that is general by, and each misfit before it is one that it has no order
with. -/
theorem inOrder_eq_error (hgeneral : ∀ x ∈ general, General x.place)
    (hkeys : ∀ e ∈ entries, e.1.isScalar = true) (h : ¬ Sortable entries) :
    inOrder (general ++ entries.map misfit) = .error .unsupported := by
  induction entries using List.reverseRecOn with
  | nil => exact absurd (fun _ he => (List.not_mem_nil he).elim) h
  | append_singleton before e ih =>
    have hbefore : ∀ e ∈ before, e.1.isScalar = true := fun e he =>
      hkeys e (List.mem_append_left _ he)
    have he : e.1.isScalar = true := hkeys e List.mem_concat_self
    rw [List.map_append, List.map_singleton, ← List.append_assoc, inOrder_concat]
    by_cases hs : Sortable before
    · obtain ⟨vs, hvs⟩ := exists_inOrder_of_sortable hgeneral hs
      simp only [sortable_iff hbefore, scales, List.forall_mem_map] at hs
      obtain ⟨e₀, he₀, hne⟩ := exists_scale?_ne_of_not_sortable hkeys h
      -- the misfits before are on one scale, so the new one has an order with none of them
      have herror : ∀ e' ∈ before, isBefore (misfit e) (misfit e') = .error .unsupported :=
        fun e' he' => isBefore_misfit_eq_error he (hbefore e' he') (hs e₀ he₀ e' he' ▸ hne)
      have hmem (x : Violation) := (perm_of_inOrder hvs).mem_iff (a := x)
      rw [hvs]
      refine insertInOrder_eq_error (fun y hy => ?_) ⟨misfit e₀, ?_, herror e₀ he₀⟩
      · rcases List.mem_append.mp ((hmem y).mp hy) with hy | hy
        · exact .inl (isBefore_misfit_general e (hgeneral y hy))
        · obtain ⟨e', he', rfl⟩ := List.mem_map.mp hy
          exact .inr (herror e' he')
      · exact (hmem _).mpr (List.mem_append_right _ (List.mem_map_of_mem he₀))
    · rw [ih hbefore hs]
      rfl

/-! ## Reports -/

/-- A violation as it is reported. -/
def issueAt (path : Path) (v : Violation) : Issue := ⟨path.text, v.message, v.location⟩

namespace Reading

/-- The templates in what is read. -/
def templates : Reading → List (Value × Value)
  | .document v => (templateEntries? v).getD []
  | .unreadable _ => []

/-- The templates in what is read that are no text. -/
def misfits : Reading → List (Value × Value)
  | .document v => Catalog.misfits v
  | .unreadable _ => []

/-- All that there is to report of what is read. -/
def issues (path : Path) : Reading → List Issue
  | .document v => (violations v).map (issueAt path)
  | .unreadable issue => [issue]

/-- The values that the report shows, apart from the places. -/
def quotes : Reading → List Value
  | .document v => (violations v).flatMap (·.quotes)
  | .unreadable _ => []

theorem isScalar_of_mem_misfits (hreader : reader.IsKeyed) {reading : Reading}
    (hread : read reader files path = .ok reading) (he : e ∈ reading.misfits) :
    e.1.isScalar = true := by
  cases reading with
  | document v =>
    obtain ⟨he, -⟩ := List.mem_filter.mp he
    rcases hentries : templateEntries? v with _ | entries
    · rw [hentries] at he
      cases he
    · rw [hentries] at he
      have hkeys := distinctKeys_templateEntries (keyed_of_read hreader hread) hentries
      exact Value.isScalar_of_isPlain (hkeys.isPlain e he)
  | unreadable issue => cases he

end Reading

/-- The places can be written if the keys of the misfits can be. -/
theorem areWritable_places {v : Value} {sorted : List Violation}
    (h : sorted.Perm (violations v)) : Value.areWritable (sorted.flatMap (·.place)) =
      Value.areWritable ((misfits v).map (·.1)) := by
  obtain ⟨general, hviolations, hgeneral⟩ := violations_eq v
  rw [hviolations] at h
  rw [Bool.eq_iff_iff, Value.areWritable_iff, Value.areWritable_iff, List.forall_mem_map]
  constructor
  · intro hplaces e he
    refine hplaces e.1 (List.mem_flatMap.mpr ⟨misfit e, h.mem_iff.mpr ?_, ?_⟩)
    · exact List.mem_append_right _ (List.mem_map_of_mem he)
    · exact List.mem_cons_of_mem _ List.mem_cons_self
  · intro hkeys u hu
    obtain ⟨x, hx, hu⟩ := List.mem_flatMap.mp hu
    rcases List.mem_append.mp (h.mem_iff.mp hx) with hx | hx
    · exact (hgeneral x hx).isWritable u hu
    · obtain ⟨e, he, rfl⟩ := List.mem_map.mp hx
      rcases List.mem_pair.mp hu with rfl | rfl
      · rfl
      · exact hkeys e he

/-! ### Documents -/

section Documents

variable {v : Value}

theorem issuesOf_of_quotes (h : Value.areWritable ((violations v).flatMap (·.quotes)) = false) :
    issuesOf path v = .error .integerTooLong := by
  rw [issuesOf, Value.requireWritable_of_not_areWritable h]
  rfl

variable (h : Value.areWritable ((violations v).flatMap (·.quotes)) = true)

include h

theorem issuesOf_of_fault {fault : Fault} (hfault : inOrder (violations v) = .error fault) :
    issuesOf path v = .error fault := by
  rw [issuesOf, Value.requireWritable_of_areWritable h, hfault]
  rfl

theorem issuesOf_of_inOrder {sorted : List Violation}
    (hsorted : inOrder (violations v) = .ok sorted) : issuesOf path v =
      if Value.areWritable ((misfits v).map (·.1)) then .ok (sorted.map (issueAt path))
      else .error .integerTooLong := by
  rw [← areWritable_places (perm_of_inOrder hsorted), issuesOf,
    Value.requireWritable_of_areWritable h, hsorted]
  show (Value.requireWritable (sorted.flatMap (·.place)) >>= fun _ =>
    Except.ok (sorted.map (issueAt path))) = _
  rw [Value.requireWritable]
  cases Value.areWritable (sorted.flatMap (·.place)) <;> rfl

end Documents

/-! ### Files -/

theorem validate_of_document {v : Value} (hread : read reader files path = .ok (.document v)) :
    validate reader files path = issuesOf path v := by
  rw [validate, hread]
  rfl

theorem validate_of_unreadable {issue : Issue}
    (hread : read reader files path = .ok (.unreadable issue)) :
    validate reader files path = .ok [issue] := by
  rw [validate, hread]
  rfl

theorem load_of_validate_eq_error {fault : Fault}
    (h : validate reader files path = .error fault) :
    (load reader files path true).answer = .error fault := by
  rw [load, if_pos rfl, h]

/-- A catalog in which something is found is refused with all that is found. -/
theorem load_of_validate_ne_nil {issues : List Issue}
    (h : validate reader files path = .ok issues) (hne : issues ≠ []) :
    (load reader files path true).answer = .error (.catalogInvalid path.text issues) := by
  obtain ⟨issue, more, rfl⟩ := List.exists_cons_of_ne_nil hne
  rw [load, if_pos rfl, h]
  rfl

/-- A file in which nothing is found gives its templates, if their keys can be written. -/
theorem load_of_nothing_found {reading : Reading} (hread : read reader files path = .ok reading)
    (h : validate reader files path = .ok []) : (load reader files path true).answer =
      if Value.areWritable (reading.templates.map (·.1)) then
        .ok (Table.overlay [] (reading.templates.map shown))
      else .error .integerTooLong := by
  obtain ⟨v, entries, hv, hentries, hload⟩ := exists_entries_of_validate_nil h
  obtain rfl := Except.ok.inj (hread.symm.trans hv)
  rw [load_of_validate_nil h, hload, Reading.templates, hentries, Option.getD_some]

/-- **What checking and loading report**: if all that is to be shown can be written, and the keys of
the templates that are no text can be compared with each other, checking lists what there is to
report, all of it and nothing else. Loading then refuses the file with the list. If the list is
empty, it gives the templates, unless a key of one cannot be written. If two such keys cannot be
compared, or something that is to be shown cannot be written, checking and loading both end with a
fault. -/
theorem validate_reports (hreader : reader.IsKeyed) {reading : Reading}
    (hread : read reader files path = .ok reading) :
    let answer := validate reader files path
    let loaded := (load reader files path true).answer
    (Value.areWritable reading.quotes = true → Sortable reading.misfits →
      Value.areWritable (reading.misfits.map (·.1)) = true →
      ∃ issues, answer = .ok issues ∧ issues.Perm (reading.issues path) ∧
        (issues ≠ [] → loaded = .error (.catalogInvalid path.text issues)) ∧
        (issues = [] → loaded =
          if Value.areWritable (reading.templates.map (·.1)) then
            .ok (Table.overlay [] (reading.templates.map shown))
          else .error .integerTooLong)) ∧
    (Value.areWritable reading.quotes = true → ¬ Sortable reading.misfits →
      answer = .error .unsupported ∧ loaded = .error .unsupported) ∧
    (Value.areWritable reading.quotes = false ∨
        Sortable reading.misfits ∧ Value.areWritable (reading.misfits.map (·.1)) = false →
      answer = .error .integerTooLong ∧ loaded = .error .integerTooLong) := by
  intro answer loaded
  have hscalar : ∀ e ∈ reading.misfits, e.1.isScalar = true := fun e he =>
    Reading.isScalar_of_mem_misfits hreader hread he
  have hreport (issues : List Issue) (h : answer = .ok issues) :
      (issues ≠ [] → loaded = .error (.catalogInvalid path.text issues)) ∧
        (issues = [] → loaded =
          if Value.areWritable (reading.templates.map (·.1)) then
            .ok (Table.overlay [] (reading.templates.map shown))
          else .error .integerTooLong) :=
    ⟨load_of_validate_ne_nil h, fun hnil => load_of_nothing_found hread (hnil ▸ h)⟩
  have hend {fault : Fault} (h : answer = .error fault) :
      answer = .error fault ∧ loaded = .error fault := ⟨h, load_of_validate_eq_error h⟩
  cases reading with
  | document v =>
    obtain ⟨general, hviolations, hgeneral⟩ := violations_eq v
    have hanswer : answer = issuesOf path v := validate_of_document hread
    have hsorted (hs : Sortable (misfits v)) : ∃ sorted, inOrder (violations v) = .ok sorted :=
      hviolations ▸ exists_inOrder_of_sortable hgeneral hs
    refine ⟨fun hquotes hs hkeys => ?_, fun hquotes hs => hend ?_, fun h => hend ?_⟩
    · obtain ⟨sorted, hsorted⟩ := hsorted hs
      have hissues := (hanswer.trans (issuesOf_of_inOrder hquotes hsorted)).trans (if_pos hkeys)
      exact ⟨_, hissues, (perm_of_inOrder hsorted).map _, hreport _ hissues⟩
    · refine hanswer.trans (issuesOf_of_fault hquotes ?_)
      rw [hviolations]
      exact inOrder_eq_error hgeneral hscalar hs
    · rcases hquotes : Value.areWritable (Reading.document v).quotes with _ | _
      · exact hanswer.trans (issuesOf_of_quotes hquotes)
      · obtain ⟨hs, hkeys⟩ := h.resolve_left (ne_false_of_eq_true hquotes)
        obtain ⟨sorted, hsorted⟩ := hsorted hs
        refine (hanswer.trans (issuesOf_of_inOrder hquotes hsorted)).trans (if_neg fun hkeys' => ?_)
        cases hkeys.symm.trans hkeys'
  | unreadable issue =>
    have hissues : answer = .ok [issue] := validate_of_unreadable hread
    -- without a document there is nothing to compare and nothing to show
    refine ⟨fun _ _ _ => ⟨_, hissues, .refl _, hreport _ hissues⟩, fun _ hs => ?_, fun h => ?_⟩
    · exact absurd (fun _ he => (List.not_mem_nil he).elim) hs
    · rcases h with h | ⟨-, h⟩ <;> cases h

/-- Two files with two templates each that are no text: with an integer and a text as their keys,
and with two integers. -/
def misfitFiles : Folder :=
  [(["mixed.yaml"], "templates:\n  1: 5\n  a.b: 6\n".toUTF8),
    (["whole.yaml"], "templates:\n  2: 5\n  1: 6\n".toUTF8)]

def mixedPath : Path := ⟨"", ["mixed.yaml"]⟩

def wholePath : Path := ⟨"", ["whole.yaml"]⟩

/-- In the one file the keys stand on two scales, in the other on one, and all can be written. -/
theorem exists_readings_misfit : ∃ mixed whole,
    read Yaml.Document.reader misfitFiles mixedPath = .ok mixed ∧
      read Yaml.Document.reader misfitFiles wholePath = .ok whole ∧
      scales mixed.misfits = [some .numbers, some .texts] ∧
      scales whole.misfits = [some .numbers, some .numbers] ∧
      Value.areWritable mixed.quotes = true ∧ Value.areWritable whole.quotes = true ∧
      Value.areWritable (whole.misfits.map (·.1)) = true := by
  have hmixed : (read Yaml.Document.reader misfitFiles mixedPath).map
      (fun r => (scales r.misfits, Value.areWritable r.quotes)) =
        .ok ([some .numbers, some .texts], true) := by
    decide +kernel
  have hwhole : (read Yaml.Document.reader misfitFiles wholePath).map
      (fun r => (scales r.misfits, Value.areWritable (r.quotes ++ r.misfits.map (·.1)))) =
        .ok ([some .numbers, some .numbers], true) := by
    decide +kernel
  obtain ⟨mixed, hmixed, hmixedParts⟩ := exists_of_map_eq_ok hmixed
  obtain ⟨whole, hwhole, hwholeParts⟩ := exists_of_map_eq_ok hwhole
  obtain ⟨hmixedScales, hmixedQuotes⟩ := Prod.mk.inj hmixedParts
  obtain ⟨hwholeScales, hwholeShown⟩ := Prod.mk.inj hwholeParts
  rw [Value.areWritable_iff, List.forall_mem_append, ← Value.areWritable_iff,
    ← Value.areWritable_iff] at hwholeShown
  exact ⟨mixed, whole, hmixed, hwhole, hmixedScales, hwholeScales, hmixedQuotes, hwholeShown⟩

/-- Of the file with two integers everything is reported, in the order of its keys; the other gives
no answer. -/
theorem validate_reports_misfits :
    let reader := Yaml.Document.reader
    ∃ mixed whole, read reader misfitFiles mixedPath = .ok mixed ∧
      read reader misfitFiles wholePath = .ok whole ∧
      ¬ Sortable mixed.misfits ∧ Sortable whole.misfits ∧
      validate reader misfitFiles mixedPath = .error .unsupported ∧
      ∃ issues, validate reader misfitFiles wholePath = .ok issues ∧
        issues.Perm (whole.issues wholePath) ∧
        issues.map Issue.message = ["6 is not of type 'string'", "5 is not of type 'string'"] ∧
        (load reader misfitFiles wholePath true).answer =
          .error (.catalogInvalid wholePath.text issues) := by
  intro reader
  have hreader : reader.IsKeyed := Yaml.Document.isKeyed_reader
  obtain ⟨mixed, whole, hmixed, hwhole, hmixedScales, hwholeScales, hmixedQuotes, hwholeQuotes,
    hwholeKeys⟩ := exists_readings_misfit
  have hnot : ¬ Sortable mixed.misfits := by
    rw [sortable_iff fun e he => Reading.isScalar_of_mem_misfits hreader hmixed he, hmixedScales]
    decide
  have hsortable : Sortable whole.misfits := by
    rw [sortable_iff fun e he => Reading.isScalar_of_mem_misfits hreader hwhole he, hwholeScales]
    decide
  obtain ⟨-, hmixedFault, -⟩ := validate_reports hreader hmixed
  obtain ⟨hwholeReport, -⟩ := validate_reports hreader hwhole
  obtain ⟨issues, hissues, hperm, hload, -⟩ := hwholeReport hwholeQuotes hsortable hwholeKeys
  have hmessages : (validate reader misfitFiles wholePath).map (·.map Issue.message) =
      .ok ["6 is not of type 'string'", "5 is not of type 'string'"] := by
    decide +kernel
  rw [hissues] at hmessages
  have hmessages := Except.ok.inj hmessages
  refine ⟨mixed, whole, hmixed, hwhole, hnot, hsortable, (hmixedFault hmixedQuotes hnot).1,
    issues, hissues, hperm, hmessages, hload ?_⟩
  rintro rfl
  cases hmessages

/-- A document is read from the first file, and neither checking nor loading it gives an answer. -/
theorem validate_raises_mixed :
    let reader := Yaml.Document.reader
    (∃ v, read reader misfitFiles mixedPath = .ok (.document v)) ∧
      validate reader misfitFiles mixedPath = .error .unsupported ∧
      (load reader misfitFiles mixedPath true).answer = .error .unsupported := by
  intro reader
  have hread : (readEntries? reader misfitFiles mixedPath).isSome = true := by
    decide +kernel
  have hvalidate : validate reader misfitFiles mixedPath = .error .unsupported := by
    decide +kernel
  refine ⟨?_, hvalidate, load_of_validate_eq_error hvalidate⟩
  obtain ⟨entries, hentries⟩ := Option.isSome_iff_exists.mp hread
  obtain ⟨v, hv, -⟩ := exists_of_readEntries? hentries
  exact ⟨v, hv⟩

end Verdict.Catalog
