import TemplateRules.CommandLine.Words
import TemplateRules.File.Path
import TemplateRules.Table
import TemplateRules.Text.Blank
import TemplateRules.Text.Search

/-!
# Commands

What the words of a command ask for. Requests for help or the version come before all else once the
words of their part of the command are in order.

## Main definitions

* `Command`: the commands
* `Invocation.read`: the command that words ask for
-/

namespace TemplateRules

/-- What `apply` is asked for: the template, the rule document, the version of the generator, the
properties, what is added to the environment, and where the result goes. -/
structure Application where
  template : Path
  rules : Path
  generatorVersion : Option String
  properties : Table String
  environment : Table String
  output : Option Path
deriving DecidableEq

/-- The commands. -/
inductive Command where
  | help
  | version
  | validate (rules : List Path)
  | apply (a : Application)
  | sources (config : Option Path)
deriving DecidableEq

/-- A command, and whether its trace is to be shown. -/
structure Invocation where
  verbose : Bool
  command : Command
deriving DecidableEq

namespace Command

/-- The option that asks for help. -/
def helpForm : OptionForm := ⟨"help", ["--help"], false⟩

/-- The options before the name of a command. -/
def generalForms : List OptionForm :=
  [helpForm, ⟨"version", ["--version"], false⟩, ⟨"verbose", ["--verbose", "-v"], false⟩]

/-- The options of `apply`. -/
def applyForms : List OptionForm := [
  helpForm,
  ⟨"generator-version", ["--generator-version"], true⟩,
  ⟨"property", ["--property", "-P"], true⟩,
  ⟨"env", ["--env", "-e"], true⟩,
  ⟨"output", ["--output", "-o"], true⟩]

/-- The options of `sources`. -/
def sourcesForms : List OptionForm := [helpForm, ⟨"config", ["--config", "-c"], true⟩]

/-- The pair that an item writes as `KEY=VALUE`, where the key is not blank. -/
def pair (option item : String) : Except UsageFault (String × String) :=
  match Text.cutAt? '=' item with
  | some (key, value) =>
    if Text.isAllBlank key then .error (.notPair option item) else .ok (Text.strip key, value)
  | none => .error (.notPair option item)

/-- The pairs that items write, of which a later one replaces an earlier one of the same key. -/
def pairs (option : String) (items : List String) : Except UsageFault (Table String) := do
  return .ofEntries (← items.mapM (pair option))

/-- Goes on with words unless they ask for help. -/
def unlessHelp (w : Words) (next : Except UsageFault Command) : Except UsageFault Command :=
  if (w.values "help").isEmpty then next else .ok .help

/-- Refuses operands. -/
def noOperands (w : Words) (command : Command) : Except UsageFault Command :=
  match w.operands with
  | [] => .ok command
  | word :: _ => .error (.extraOperand word)

/-- The `apply` command of its words. -/
def readApply (w : Words) : Except UsageFault Command :=
  match w.operands with
  | [template, rules] => do
    let properties ← pairs "--property" (w.values "property")
    let environment ← pairs "--env" (w.values "env")
    return .apply ⟨.ofText template, .ofText rules, w.value? "generator-version", properties,
      environment, (w.value? "output").map Path.ofText⟩
  | [] => .error (.missingOperand "TEMPLATE")
  | [_] => .error (.missingOperand "RULES")
  | _ :: _ :: word :: _ => .error (.extraOperand word)

/-- The `validate` command of its words. -/
def readValidate (w : Words) : Except UsageFault Command :=
  if w.operands.isEmpty then .error (.missingOperand "RULES")
  else .ok (.validate (w.operands.map Path.ofText))

/-- The command of a name and the words after it. -/
def ofName (name : String) (words : List String) : Except UsageFault Command :=
  match name with
  | "apply" => do
    let w ← Words.read applyForms true words
    unlessHelp w (readApply w)
  | "validate" => do
    let w ← Words.read [helpForm] true words
    unlessHelp w (readValidate w)
  | "sources" => do
    let w ← Words.read sourcesForms true words
    unlessHelp w (noOperands w (.sources ((w.value? "config").map Path.ofText)))
  | "version" => do
    let w ← Words.read [helpForm] true words
    unlessHelp w (noOperands w .version)
  | _ => .error (.unknownCommand name)

end Command

/-- The command that words ask for. Of requests for help and for the version the first one counts. -/
def Invocation.read (words : List String) : Except UsageFault Invocation := do
  let w ← Words.read Command.generalForms false words
  let verbose := !(w.values "verbose").isEmpty
  match (w.options.map (·.1)).find? (· != "verbose"), w.operands with
  | some "help", _ => return ⟨verbose, .help⟩
  | some _, _ => return ⟨verbose, .version⟩
  | none, [] => throw .missingCommand
  | none, name :: rest => return ⟨verbose, ← Command.ofName name rest⟩

end TemplateRules
