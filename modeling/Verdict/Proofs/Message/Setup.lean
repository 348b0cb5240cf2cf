import Verdict.Proofs.Catalog.Loading
import Verdict.Proofs.Failure
import Verdict.Proofs.Message.Desk
import Verdict.Settings

/-!
# What a desk made from settings shows

Settings come to a desk by several steps: a catalog is read and its templates are set over the
built-in ones, a registry routes the codes of the catalog that are supported and leaves all others
to the default, and each message seeds the parameters with the element. `Settings.message_of_loads`
says what comes out in the end, for codes of all kinds alike, and however many messages the desk has
shown before: the template of the catalog if it has one for the code, else the built-in one if these
are wanted and there is one, else the fallback, filled with the parameters and the element.

A catalog loads to a table that has each code once (`Catalog.nodup_keys_of_load`), so setting its
templates one after the other is the same as looking them up in the table
(`Settings.serves_of_loads`). After that, the desk is one with a single provider.
-/

namespace Verdict

/-! ## Seeded parameters -/

/-- The parameters with the element as one of them, if there is an element and they do not have
that parameter already. -/
def Parameters.seeded (identifier : Option Identifier) (p : Parameters) : Parameters :=
  match identifier with
  | some id => if p.has Parameter.field then p else (Parameter.field, .text id.text) :: p
  | none => p

/-- Seeding is what a message does to parameters, if none of them is given twice. -/
theorem get?_messageParameters_eq {p : Parameters} (hp : p.keys.Nodup)
    (identifier : Option Identifier) (name : String) :
    (messageParameters identifier p).get? name =
      (Parameters.seeded identifier p).get? name := by
  cases identifier with
  | none => rfl
  | some id =>
    rw [messageParameters, Table.get?_overlay, Table.last?_eq_get? hp, Parameters.seeded]
    by_cases hname : Parameter.field = name
    · subst hname
      by_cases hfield : p.has Parameter.field = true
      · obtain ⟨value, hvalue⟩ := Table.exists_get?_of_mem_keys (Table.has_iff_mem_keys.mp hfield)
        rw [if_pos hfield, hvalue, Option.some_or]
      · have hnone : p.get? Parameter.field = none := by
          simpa [Table.has] using hfield
        rw [if_neg hfield, hnone, Option.none_or, Table.get?, if_pos rfl,
          Table.get?, if_pos rfl]
    · rw [Table.get?, if_neg hname, Table.get?_nil, Option.or_none]
      split
      next => rfl
      next => rw [Table.get?, if_neg hname]

/-! ## Desks -/

namespace Settings

variable {settings : Settings} {reader : DocumentReader} {files : Folder} {catalog : Table String}

/-- The templates that the settings take from a catalog: those it loads to, and none if the settings
name no catalog. -/
inductive Loads (settings : Settings) (reader : DocumentReader) (files : Folder) :
    Table String → Prop where
  | nothing (h : settings.catalog = none) : Loads settings reader files []
  | templates {path : Path} {catalog : Table String} (h : settings.catalog = some path)
    (hload : (Catalog.load reader files path settings.checked).answer = .ok catalog) :
    Loads settings reader files catalog

theorem Loads.nodup_keys (h : settings.Loads reader files catalog) : catalog.keys.Nodup := by
  cases h with
  | nothing _ => exact List.nodup_nil
  | templates _ hload => exact Catalog.nodup_keys_of_load hload

/-- The template of a code: that of the catalog, else the built-in one if these are wanted, else the
fallback. -/
def templateOf (settings : Settings) (catalog : Table String) (code : String) : String :=
  ((catalog.get? code).or
    (if settings.includeBuiltin then builtinTemplates.get? code else none)).getD fallbackTemplate

/-- The provider that a catalog is applied to. -/
def provider (settings : Settings) (catalog : Table String) : Provider :=
  (Provider.new [] settings.includeBuiltin).setTemplates catalog

/-- Setting the templates of a catalog is putting the catalog before the built-in templates. -/
theorem getD_provider (settings : Settings) (hcatalog : catalog.keys.Nodup) (code : String) :
    ((settings.provider catalog).templates.get? code).getD fallbackTemplate =
      settings.templateOf catalog code := by
  rw [provider, Provider.templates_setTemplates, Table.get?_overlay, Table.last?_eq_get? hcatalog,
    templateOf]
  cases settings.includeBuiltin with
  | false => rfl
  | true => rfl

/-- The desk of settings whose catalog loads is the one over the provider with that catalog. -/
theorem serves_of_loads (h : settings.Loads reader files catalog) :
    ∃ d, (settings.desk reader files).answer = .ok d ∧
      d.Serves (settings.provider catalog).templates := by
  have hfaithful : (settings.provider catalog).Faithful :=
    (Provider.faithful_new [] settings.includeBuiltin).setTemplates catalog
  refine ⟨_, ?_, (Desk.serves_single hfaithful).2⟩
  cases h with
  | nothing hnone =>
    rw [desk, hnone]
    rfl
  | templates hpath hload =>
    rw [desk, hpath]
    simp only [Catalog.apply, hload]
    rfl

end Settings

/-- Something that a desk is asked for a message of. -/
structure Question where
  code : String
  identifier : Option Identifier
  parameters : Parameters

namespace Desk

/-- The desk after showing messages, which are kept in its cache. -/
def asked (d : Desk) (questions : List Question) : Desk :=
  questions.foldl (fun d q => (d.message q.code q.identifier q.parameters).desk) d

/-- A desk that serves templates goes on serving them. -/
theorem Serves.asked {templates : Table String} {d : Desk} (h : d.Serves templates)
    (questions : List Question) : Serves templates (d.asked questions) := by
  induction questions generalizing d with
  | nil => exact h
  | cons q rest ih => exact ih (h.message q.code q.identifier q.parameters).2

end Desk

namespace Settings

variable {settings : Settings} {reader : DocumentReader} {files : Folder} {catalog : Table String}

/-- **From settings to messages**: if the catalog loads, if there is one, then there is a desk, and
however many messages it has shown, the next one is this: the template of the code, from the
catalog, built in, or the fallback, filled with the parameters that are given and the element among
them; and for a failure, filled with what the failure has itself. -/
theorem message_of_loads (h : settings.Loads reader files catalog) :
    ∃ d, (settings.desk reader files).answer = .ok d ∧ ∀ earlier : List Question,
      (∀ code identifier parameters, (Table.keys parameters).Nodup →
        ∃ text, ((d.asked earlier).message code identifier parameters).answer = .ok text ∧
          Segment.Shows (Parameters.seeded identifier parameters)
            (Segment.compile (settings.templateOf catalog code)) text) ∧
      ∀ f : Failure, f.Made →
        ∃ text, ((d.asked earlier).messageFor f).answer = .ok text ∧
          Segment.Shows f.parameters (Segment.compile (settings.templateOf catalog f.code))
            text := by
  obtain ⟨d, hd, hserves⟩ := serves_of_loads h
  have htext (code : String) (identifier : Option Identifier) (p q : Parameters)
      (hsame : ∀ name, (messageParameters identifier p).get? name = q.get? name) :
      Segment.Shows q (Segment.compile (settings.templateOf catalog code))
        (Desk.textOf (settings.provider catalog).templates code identifier p) := by
    rw [Segment.shows_iff, Desk.textOf, getD_provider settings h.nodup_keys]
    exact Segment.render_congr fun name _ => (hsame name).symm
  refine ⟨d, hd, fun earlier => ⟨?_, ?_⟩⟩
  · intro code identifier p hp
    obtain ⟨hanswer, -⟩ := (hserves.asked earlier).message code identifier p
    exact ⟨_, hanswer, htext code identifier p _ (get?_messageParameters_eq hp identifier)⟩
  · intro f hf
    obtain ⟨hanswer, -⟩ := (hserves.asked earlier).message f.code (some f.identifier) f.parameters
    exact ⟨_, hanswer, htext f.code _ _ _ (hf.get?_messageParameters _)⟩

/-- A catalog with another template for a code of the catalog of codes, and with a code of its
own. -/
def sampleFiles : Folder :=
  [(["en.yaml"],
    "templates:\n  number.min: At least {min}\n  billing.iban: \"'{field}' is no IBAN\"\n".toUTF8)]

def sampleCatalog : Table String :=
  [("number.min", "At least {min}"), ("billing.iban", "'{field}' is no IBAN")]

/-- A code of the catalog's own, one that the catalog has another template for, one that there is no
template for, and a failure with a built-in template whose parameter for the element was given. -/
theorem message_of_loads_sampleCatalog :
    let settings : Settings := ⟨some ⟨"", ["en.yaml"]⟩, true, true⟩
    let id : Identifier := ⟨.field, "iban"⟩
    settings.Loads Yaml.Document.reader sampleFiles sampleCatalog ∧
      ∃ d f, (settings.desk Yaml.Document.reader sampleFiles).answer = .ok d ∧
        Failure.create (some id) (some "common.not_null") [("field", .text "IBAN")] = .ok f ∧
        let d' := d.asked [⟨"number.min", none, []⟩]
        (d'.message "billing.iban" (some id) []).answer = .ok "'iban' is no IBAN" ∧
          (d'.message "number.min" (some id) [("min", .int 3)]).answer = .ok "At least 3" ∧
          (d'.message "billing.bic" (some id) [("field", .text "BIC")]).answer =
            .ok "Validation failed for field 'BIC'" ∧
          (d'.messageFor f).answer = .ok "Field 'IBAN' must not be null" := by
  intro settings id
  have hload : (Catalog.load Yaml.Document.reader sampleFiles ⟨"", ["en.yaml"]⟩ true).answer =
      .ok sampleCatalog := by
    decide +kernel
  have hloads : settings.Loads Yaml.Document.reader sampleFiles sampleCatalog :=
    .templates rfl hload
  obtain ⟨d, hd, hmessages⟩ := message_of_loads hloads
  obtain ⟨hcodes, hfailures⟩ := hmessages [⟨"number.min", none, []⟩]
  have hshown (code : String) (p : Parameters) (hp : p.keys.Nodup) (shown : String)
      (hrender : Segment.render (Segment.compile (settings.templateOf sampleCatalog code))
        (Parameters.seeded (some id) p) = shown) :
      ((d.asked [⟨"number.min", none, []⟩]).message code (some id) p).answer = .ok shown := by
    obtain ⟨text, hanswer, htext⟩ := hcodes code (some id) p hp
    rw [hanswer, ← hrender, (Segment.shows_iff ..).mp htext]
  have hcreate : Failure.create (some id) (some "common.not_null") [("field", .text "IBAN")] =
      .ok _ := rfl
  obtain ⟨text, hanswer, htext⟩ := hfailures _ (.created hcreate)
  refine ⟨hloads, d, _, hd, hcreate, hshown _ _ (by decide) _ (by decide +kernel),
    hshown _ _ (by decide) _ (by decide +kernel), hshown _ _ (by decide) _ (by decide +kernel), ?_⟩
  rw [hanswer, ← (Segment.shows_iff ..).mp htext]
  exact congrArg Except.ok (by decide +kernel)

end Settings

end Verdict
