import TemplateRules.CommandLine.Command
import TemplateRules.CommandLine.Markup
import TemplateRules.Run

/-!
# Running commands

A command looks at files and the environment and shows texts and tables. It ends with a status: zero
for success, one for failure. A defect of an input ends a command without a word.

## Main definitions

* `Shown`: what a command shows
* `Outcome`: what a command leaves behind
* `Command.run`: running a command
-/

namespace TemplateRules

/-- What a command shows. -/
inductive Shown where
  /-- A text without an end of line. -/
  | text (s : String)
  /-- A line of its own. -/
  | line (s : String)
  | table (title : String) (header : List String) (rows : List (List String))
deriving DecidableEq

/-- What a command leaves behind: its status, what it shows, and the file that it writes. -/
structure Outcome where
  status : Nat
  shown : List Shown
  written : Option (Path × String)
  files : FileTree

/-- What a command works with. -/
structure Surroundings where
  files : FileTree
  /-- The variables, in characters. -/
  environment : Table String

namespace Surroundings

/-- The end of a command that has shown things and written nothing. -/
def finish (w : Surroundings) (status : Nat) (shown : List Shown) : Outcome :=
  ⟨status, shown, none, w.files⟩

/-- The end of a command that shows markup; markup that cannot be shown is a failure. -/
def finishWith (w : Surroundings) (status : Nat) (shown : Option (List Shown)) : Outcome :=
  match shown with
  | some shown => w.finish status shown
  | none => w.finish 1 []

end Surroundings

namespace Command

/-! ## Showing -/

/-- A line of markup. -/
def line? (markup : String) : Option Shown :=
  (Markup.shown? markup).map fun s => .line (Markup.laidOut s)

/-- The markup of an error line. -/
def errorMarkup (markup : String) : String := "[red]Error:[/red] " ++ markup

/-- A table of markup. -/
def table? (title : String) (header : List String) (rows : List (List String)) : Option Shown := do
  let cell (markup : String) := (Markup.shown? markup).map Markup.laidOut
  return .table (← cell title) header (← rows.mapM fun row => row.mapM cell)

/-- The end of a command that fails: an error line, or nothing for a defect. -/
def failed (w : Surroundings) : Failure → Outcome
  | .defect _ => w.finish 1 []
  | failure => w.finishWith 1 ((line? (errorMarkup (Markup.escape failure.message))).map ([·]))

/-! ## The version -/

/-- The line that tells the version. -/
def versionLine : String := "Tailor version " ++ Settings.currentVersion

/-- The lines that tell how commands are written. -/
def usageLines : List String := [
  "Usage: tailor [--version] [-v | --verbose] COMMAND [ARGS]...",
  "Commands:",
  "  validate RULES...                  Validate rule documents without applying them.",
  "  apply TEMPLATE RULES [OPTIONS]     Apply one rule document to one template.",
  "  sources [-c | --config FILE]       Show which template sources are available.",
  "  version                            Show the version."]

/-! ## Validating -/

/-- Reads rule documents and gives the outcome of each. -/
def validated (files : FileTree) : List Path → Traced (List (Path × Except Failure RuleDocument))
  | [] => pure []
  | path :: paths => do
    let outcome ← (RuleDocument.read RuleDocument.defaultLimit files path).run
    return (path, outcome) :: (← validated files paths)

/-- The row of a rule document. -/
def validationRow : Path × Except Failure RuleDocument → List String
  | (path, .ok d) => [path.text, "[green]valid[/green]", toString d.ruleCount]
  | (path, .error _) => [path.text, "[red]invalid[/red]", "-"]

/-- The error line of a rule document that is not valid. -/
def validationError : Path × Except Failure RuleDocument → Option String
  | (_, .ok _) => none
  | (path, .error failure) =>
    some (errorMarkup (Markup.escape path.text ++ ": " ++ Markup.escape failure.message))

/-- Whether reading met a defect. -/
def isDefective : Path × Except Failure RuleDocument → Bool
  | (_, .error (.defect _)) => true
  | _ => false

/-- Validates rule documents. -/
def runValidate (w : Surroundings) (rules : List Path) : Traced Outcome := do
  let outcomes ← validated w.files rules
  let errors := outcomes.filterMap validationError
  if outcomes.any isDefective then return w.finish 1 []
  return w.finishWith (if errors.isEmpty then 0 else 1) (do
    let table ← table? "Rule Documents" ["File", "Status", "Rules"] (outcomes.map validationRow)
    return table :: (← errors.mapM line?))

/-! ## Applying -/

/-- Writes the result of an application, with the directories that lead to it. -/
def writeResult (files : FileTree) (path : Path) (result : String) : Except FileFault FileTree := do
  (← files.makeDirectories path.parent).write path result

/-- The end of an application with a result. -/
def deliver (w : Surroundings) (output : Option Path) (result : String) : Outcome :=
  match output with
  | none => w.finish 0 [.text result]
  | some path =>
    match writeResult w.files path result with
    | .error fault =>
      w.finishWith 1 ((line? (errorMarkup
        ("Failed to write " ++ path.text ++ ": " ++ fault.message))).map ([·]))
    | .ok files =>
      match line? ("[green]✓[/green] Wrote " ++ path.text) with
      | some line => ⟨0, [line], some (path, result), files⟩
      | none => ⟨1, [], some (path, result), files⟩

/-- What conditions see in an application. -/
def context (w : Surroundings) (a : Application) (template : String) : Context where
  generatorVersion := a.generatorVersion
  template := some template
  properties :=
    if (a.properties.lookup "templateName").isSome then a.properties
    else a.properties.put "templateName" a.template.name
  environment := w.environment.putAll a.environment
  detector := .markers

/-- Applies a rule document to a template. -/
def runApply (w : Surroundings) (a : Application) : Traced Outcome :=
  match w.files.read a.template with
  | .error fault => return w.finishWith 1 ((line? (errorMarkup
      ("Failed to read template " ++ a.template.text ++ ": " ++ fault.message))).map ([·]))
  | .ok none => return w.finish 1 []
  | .ok (some template) => do
    let outcome ← ExceptT.run (do
      let d ← RuleDocument.read RuleDocument.defaultLimit w.files a.rules
      Engine.apply RuleDocument.defaultLimit .empty template (some d) (context w a template)
        (some a.template.name))
    match outcome with
    | .error failure => return failed w failure
    | .ok (result, _) => return deliver w a.output result

/-! ## Sources -/

/-- The settings that a command works with. -/
def settings (w : Surroundings) (config : Option Path) : Except Failure Settings :=
  match config with
  | none => .ok .default
  | some path => Settings.read w.files path

/-- The row of a category of sources. -/
def sourceRow (entry : Source × Source.Availability) : List String :=
  let (s, a) := entry
  [toString s.rank, s.name, if a.available then "[green]yes[/green]" else "[yellow]no[/yellow]",
    Markup.escape a.reason]

/-- Shows the categories of sources and those that a run works with. -/
def runSources (w : Surroundings) (config : Option Path) : Traced Outcome := do
  match settings w config with
  | .error failure => return failed w failure
  | .ok s =>
    let run : Run := ⟨s, [], [], w.environment, w.files⟩
    let ((report, resolved), _) ← StateT.run (do
      return (← run.report, ← run.resolve none)) Memory.empty
    return w.finishWith 0 (do
      let table ← table? ("Template Sources (" ++ s.generator ++ ")")
        ["Precedence", "Source", "Available", "Reason"] (report.map sourceRow)
      let order ← line? ("Resolved order: " ++ ", ".intercalate (resolved.map Source.name))
      return [table, order])

/-! ## Commands -/

/-- Runs a command. -/
def run (w : Surroundings) : Command → Traced Outcome
  | .help => return w.finish 0 (usageLines.map .line)
  | .version => return w.finish 0 [.line versionLine]
  | .validate rules => runValidate w rules
  | .apply a => runApply w a
  | .sources config => runSources w config

end Command

end TemplateRules
