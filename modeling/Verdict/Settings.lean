import Verdict.Catalog
import Verdict.Message.Registry
import Verdict.Text.Ranges
import Verdict.Text.Casing

/-!
# Settings

Which templates messages are made of: the built-in ones or not, and perhaps a catalog over them.
`Settings.ofVariables` takes them from named variables; `Settings.desk` makes the desk that they
describe.
-/

namespace Verdict

/-- Which templates messages are made of. -/
structure Settings where
  catalog : Option Path
  includeBuiltin : Bool
  checked : Bool
deriving Inhabited

namespace Settings

/-- The built-in templates alone. -/
def standard : Settings := ⟨none, true, true⟩

/-- The spellings that turn a setting off. -/
def offWords : List String := ["0", "false", "no", "off"]

/-- Whether a setting is on: it is as it is unless something is said, and only the spellings for off
turn it off. -/
def isOn (standard : Bool) (said : Option String) : Bool :=
  match said with
  | none => standard
  | some text =>
    let word := Text.strip text
    if word.isEmpty then standard else !offWords.contains (Text.lowered word)

/-- The settings that named variables give. -/
def ofVariables (named : Table String) : Settings where
  catalog :=
    match named.get? "TEMPLATES_PATH" with
    | none => none
    | some text => if text.isEmpty then none else some (Path.ofText text)
  includeBuiltin := isOn true (named.get? "INCLUDE_DEFAULTS")
  checked := isOn true (named.get? "VALIDATE_TEMPLATES")

/-- The desk that the settings describe. -/
def desk (settings : Settings) (reader : DocumentReader) (files : Folder) :
    Catalog.Loaded Desk :=
  let provider := Provider.new [] settings.includeBuiltin
  let (provider, applied) : Provider × Catalog.Loaded Nat := match settings.catalog with
    | none => (provider, ⟨[], .ok 0⟩)
    | some path => Catalog.apply provider reader files path settings.checked
  match applied.answer with
  | .error fault => ⟨applied.logs, .error fault⟩
  | .ok _ =>
    let opened := Desk.single provider
    ⟨applied.logs ++ opened.logs, opened.answer.map fun _ => opened.desk⟩

end Settings

end Verdict
