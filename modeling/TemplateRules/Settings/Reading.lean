import TemplateRules.File.Tree
import TemplateRules.Settings

/-!
# Reading settings and rule documents from files

A settings file is a map; an empty file stands for the default settings. Directories that it names are
relative to the directory of the file.

## Main definitions

* `Settings.read`: the settings in a file
* `RuleDocument.read`: the rule document in a file
-/

namespace TemplateRules

namespace Settings

/-- A configuration error about settings. -/
def refusal {α : Type} (source : String) (cause : ConfigurationCause) : Except Failure α :=
  .error (.configuration ⟨source, cause⟩)

/-- The settings that a value describes; null describes the default ones. -/
def ofGraph (source : String) (g : Graph) (root : Ref) : Except Failure Settings :=
  match g.layer root with
  | .scalar .null => .ok default
  | .map entries =>
    match ofEntries g.view entries with
    | .ok s => .ok s
    | .error problems => refusal source (.invalidSettings problems)
  | _ => refusal source .settingsNotMap

/-- The settings that a text writes. -/
def ofText (source text : String) : Except Failure Settings :=
  match Yaml.readDocument text with
  | .error .malformed => refusal source .malformedSettings
  | .error (.defect d) => .error (.defect d)
  | .ok (g, root) => ofGraph source g root

/-- The settings in a file. -/
def read (files : FileTree) (path : Path) : Except Failure Settings :=
  match files.read path with
  | .error fault => refusal path.text (.unreadableSettings fault)
  | .ok none => .error (.defect .bytes)
  | .ok (some text) => do return (← ofText path.text text).within path.parent

end Settings

/-- The rule document in a file, with a record of it. -/
def RuleDocument.read (limit : Int) (files : FileTree) (path : Path) : Attempt RuleDocument :=
  match files.read path with
  | .error fault => throw (.configuration ⟨path.text, .unreadable fault⟩)
  | .ok none => throw (.defect .bytes)
  | .ok (some text) => RuleDocument.parse limit path.text text

end TemplateRules
