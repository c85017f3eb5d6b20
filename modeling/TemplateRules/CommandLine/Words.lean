/-!
# Words of a command

The words of a command are options and operands. A long option may carry its value after an equals
sign; short options may share one word, in which a value takes up the rest. The word of two dashes ends
the options.

## Main definitions

* `OptionForm`: an option and the ways to write it
* `Words.read`: the options and operands that words make up
-/

namespace TemplateRules

/-- An option: its name, the words that stand for it, and whether it has a value. -/
structure OptionForm where
  name : String
  spellings : List String
  hasValue : Bool

/-- Why words make up no command. -/
inductive UsageFault where
  | unknownOption (word : String)
  | missingValue (word : String)
  | needlessValue (word : String)
  | missingCommand
  | unknownCommand (word : String)
  | missingOperand (name : String)
  | extraOperand (word : String)
  | notPair (option item : String)
deriving DecidableEq

/-- The wording of a fault. -/
def UsageFault.message : UsageFault → String
  | .unknownOption word => "No such option: " ++ word
  | .missingValue word => "Option '" ++ word ++ "' requires an argument."
  | .needlessValue word => "Option '" ++ word ++ "' does not take a value."
  | .missingCommand => "Missing command."
  | .unknownCommand word => "No such command '" ++ word ++ "'."
  | .missingOperand name => "Missing argument '" ++ name ++ "'."
  | .extraOperand word => "Got unexpected extra argument (" ++ word ++ ")"
  | .notPair option item =>
    "Invalid value for " ++ option ++ ": Expected KEY=VALUE, got '" ++ item ++ "'"

/-- The options of a command with their values, in order, and its operands. -/
structure Words where
  options : List (String × String)
  operands : List String
deriving DecidableEq

namespace Words

/-- The words with options in front. -/
def withOptions (w : Words) (options : List (String × String)) : Words :=
  { w with options := options ++ w.options }

/-- The words with an operand in front. -/
def withOperand (w : Words) (operand : String) : Words :=
  { w with operands := operand :: w.operands }

/-- The values of an option, in order. -/
def values (w : Words) (name : String) : List String :=
  (w.options.filter fun o => o.1 = name).map (·.2)

/-- The value of an option; the last one counts. -/
def value? (w : Words) (name : String) : Option String := (w.values name).getLast?

/-! ## Kinds of words -/

/-- What a single word is. -/
inductive Kind where
  | operand
  /-- The mark after which all words are operands. -/
  | mark
  /-- Options that are complete. -/
  | options (given : List (String × String))
  /-- Options of which the last one, written by a word, takes the next word as its value. -/
  | open_ (given : List (String × String)) (name word : String)
  | fault (f : UsageFault)
deriving DecidableEq

/-- The option that a word stands for. -/
def form? (forms : List OptionForm) (word : String) : Option OptionForm :=
  forms.find? fun f => f.spellings.contains word

/-- The kind of a word with two dashes in front. -/
def longKind (forms : List OptionForm) (cs : List Char) : Kind :=
  let word := String.ofList (cs.takeWhile (· != '='))
  let value := if cs.contains '=' then some (String.ofList ((cs.dropWhile (· != '=')).drop 1)) else none
  match form? forms word, value with
  | none, _ => .fault (.unknownOption word)
  | some f, some v => if f.hasValue then .options [(f.name, v)] else .fault (.needlessValue word)
  | some f, none => if f.hasValue then .open_ [] f.name word else .options [(f.name, "")]

/-- The kind of a word whose characters stand for short options, after those given before. -/
def shortKind (forms : List OptionForm) (given : List (String × String)) : List Char → Kind
  | [] => .options given
  | c :: cs =>
    let word := String.ofList ['-', c]
    match form? forms word with
    | none => .fault (.unknownOption word)
    | some f =>
      if f.hasValue then
        if cs.isEmpty then .open_ given f.name word
        else .options (given ++ [(f.name, String.ofList cs)])
      else shortKind forms (given ++ [(f.name, "")]) cs

/-- The kind of a word. -/
def kind (forms : List OptionForm) (word : String) : Kind :=
  match word.toList with
  | ['-', '-'] => .mark
  | '-' :: '-' :: cs => longKind forms ('-' :: '-' :: cs)
  | '-' :: c :: cs => shortKind forms [] (c :: cs)
  | _ => .operand

/-! ## Reading -/

/-- Reads the words of a command. Unless options may stand between operands, the first operand ends
them. -/
def read (forms : List OptionForm) (mixed : Bool) : List String → Except UsageFault Words
  | [] => .ok ⟨[], []⟩
  | word :: rest =>
    match kind forms word with
    | .operand =>
      if mixed then (read forms mixed rest).map (·.withOperand word) else .ok ⟨[], word :: rest⟩
    | .mark => .ok ⟨[], rest⟩
    | .options given => (read forms mixed rest).map (·.withOptions given)
    -- The next word is the value, also if it looks like an option.
    | .open_ given name spelling =>
      match rest with
      | [] => .error (.missingValue spelling)
      | v :: more => (read forms mixed more).map (·.withOptions (given ++ [(name, v)]))
    | .fault f => .error f

end Words

end TemplateRules
