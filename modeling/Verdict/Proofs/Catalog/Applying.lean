import Verdict.Proofs.Catalog.Loading
import Verdict.Proofs.Message.Cache

/-!
# Applying a catalog to a provider

A catalog is loaded to the end before the provider is touched, so one that is not loaded leaves the
provider as it was, whatever it is that goes wrong. After that, templates are set one by one, and
each evicts the compiled form of its text; `apply_all_or_nothing` says what this comes to for every
provider that calls have led to. That other codes keep their messages does not follow from the
templates alone: a code of the catalog can evict an entry that other codes share. They get the same
entry again, since the cache is faithful.
-/

namespace Verdict.Catalog

variable {reader : DocumentReader} {files : Folder} {path : Path} {checked : Bool} {fault : Fault}

theorem apply_of_load_eq_error (h : (load reader files path checked).answer = .error fault)
    (p : Provider) : (apply p reader files path checked).1 = p ∧
      (apply p reader files path checked).2.answer = .error fault := by
  simp only [apply, h, and_self]

/-- **All or nothing**: a catalog that is applied to a provider in any state fails as it fails to
load, and the provider is then as it was. If it is applied, the provider has the templates of the
catalog over its own, its cache has lost the entries of the texts that were set and no others, and
the messages for codes that the catalog does not have are the same as before. -/
theorem apply_all_or_nothing (templates : Table String) (includeBuiltin : Bool)
    (calls : List Provider.Call) (reader : DocumentReader) (files : Folder) (path : Path)
    (checked : Bool) :
    let p := (Provider.new templates includeBuiltin).follow calls
    let q := (apply p reader files path checked).1
    (∀ fault, (apply p reader files path checked).2.answer = .error fault →
      (load reader files path checked).answer = .error fault ∧ q = p) ∧
    ∀ n, (apply p reader files path checked).2.answer = .ok n →
      ∃ entries, (load reader files path checked).answer = .ok entries ∧ entries.keys.Nodup ∧
        entries.length = n ∧
        q.templates = p.templates.overlay entries ∧
        (∀ code, q.templates.get? code = (entries.get? code).or (p.templates.get? code)) ∧
        q.cache = p.cache.without (entries.map (·.2)) ∧
        ∀ code ∉ entries.keys, ∀ parameters,
          (q.render code parameters).1 = (p.render code parameters).1 := by
  intro p q
  have hfaithful : p.Faithful := (Provider.faithful_new templates includeBuiltin).follow calls
  rcases hload : (load reader files path checked).answer with fault | entries
  · obtain ⟨hsame, hanswer⟩ := apply_of_load_eq_error hload p
    rw [hanswer]
    exact ⟨fun _ h => ⟨congrArg _ (Except.error.inj h), hsame⟩, fun _ h => nomatch h⟩
  · obtain ⟨hset, hanswer⟩ := apply_of_load_eq_ok hload p
    have hq : q = p.setTemplates entries := hset
    have hkeys := nodup_keys_of_load hload
    have htemplates := Provider.templates_setTemplates p entries
    rw [hanswer, hq]
    refine ⟨fun _ h => (nomatch h), fun n h => ?_⟩
    refine ⟨entries, rfl, hkeys, Except.ok.inj h, htemplates, fun code => ?_,
      Provider.cache_setTemplates p entries, fun code hcode parameters => ?_⟩
    · -- each code is there once, so the last template of a code is the only one
      rw [htemplates, Table.get?_overlay, Table.last?_eq_get? hkeys]
    · exact hfaithful.render_setTemplates hcode parameters

/-- A catalog with a text that another code has already, and a file without a mapping. -/
def shareFiles : Folder :=
  [(["share.yaml"], "templates:\n  d.e: \"{x}?\"\n".toUTF8),
    (["none.yaml"], "templates: 5\n".toUTF8)]

def sharePath : Path := ⟨"", ["share.yaml"]⟩

def nonePath : Path := ⟨"", ["none.yaml"]⟩

/-- The provider of `Provider.sampleCalls` has a compiled form of the text for another code. The one
file is refused; the other makes the provider forget the form, which the other code does not
show. -/
theorem apply_all_or_nothing_share :
    let p := (Provider.new [] true).follow Provider.sampleCalls
    let q := (apply p Yaml.Document.reader shareFiles sharePath true).1
    (apply p Yaml.Document.reader shareFiles nonePath false).2.answer =
        .error (.catalogInvalid "none.yaml" [⟨"none.yaml", "Missing 'templates' mapping", ""⟩]) ∧
      (apply p Yaml.Document.reader shareFiles nonePath false).1 = p ∧
      (apply p Yaml.Document.reader shareFiles sharePath true).2.answer = .ok 1 ∧
      q.templates.get? "d.e" = some "{x}?" ∧
      p.cache.get? "{x}?" = some [.slot "x", .text "?"] ∧ q.cache.get? "{x}?" = none ∧
      ∀ parameters, (q.render "b" parameters).1 = (p.render "b" parameters).1 := by
  intro p
  have hp : (Provider.new [] true).follow Provider.sampleCalls = p := rfl
  have hcompiled : p.cache.get? "{x}?" = some [.slot "x", .text "?"] := by rfl
  have hcache : p.cache.without ["{x}?"] = [] := by rfl
  -- nothing else about the provider is computed
  clear_value p
  have hnone : (load Yaml.Document.reader shareFiles nonePath false).answer =
      .error (.catalogInvalid "none.yaml" [⟨"none.yaml", "Missing 'templates' mapping", ""⟩]) := by
    decide +kernel
  have hshare : (load Yaml.Document.reader shareFiles sharePath true).answer =
      .ok [("d.e", "{x}?")] := by
    decide +kernel
  have hfails := (apply_of_load_eq_error hnone p).2
  have happlied := (apply_of_load_eq_ok hshare p).2
  have hall := apply_all_or_nothing [] true Provider.sampleCalls Yaml.Document.reader shareFiles
  simp only [hp] at hall
  have hunchanged := ((hall nonePath false).1 _ hfails).2
  obtain ⟨entries, hentries, -, -, -, hget, hevicted, hrender⟩ := (hall sharePath true).2 _ happlied
  obtain rfl := Except.ok.inj (hshare.symm.trans hentries)
  refine ⟨hfails, hunchanged, happlied, hget "d.e", hcompiled, ?_, hrender "b" (by decide)⟩
  rw [hevicted]
  exact congrArg (Table.get? "{x}?") hcache

end Verdict.Catalog
