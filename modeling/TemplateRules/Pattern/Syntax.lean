import TemplateRules.Text.Quoted

/-!
# Patterns

The form of a regular expression once it has been read, and the complaints about texts that are none.
-/

namespace TemplateRules.Pattern

/-! ## Forms -/

/-- The flags that decide how characters are compared and what anchors mean. -/
structure Flags where
  ignoreCase : Bool
  multiline : Bool
  dotAll : Bool
  verbose : Bool
  /-- Character classes and letter case of the seven-bit range only. -/
  ascii : Bool
  /-- Character classes and letter case of all scripts, asked for by name. -/
  unicode : Bool
  /-- No repetition is allowed. -/
  unrepeated : Bool
deriving DecidableEq

/-- No flag at all. -/
def Flags.none : Flags := ⟨false, false, false, false, false, false, false⟩

/-- A flag that a letter in a pattern stands for. -/
inductive Flag where
  | ignoreCase
  | multiline
  | dotAll
  | verbose
  | ascii
  | unicode
  | unrepeated
  /-- Letter case of a locale, which texts do not have. -/
  | locale
deriving DecidableEq

/-- The flag of a letter. -/
def Flag.ofLetter? : List Char → Option Flag
  | ['i'] => some .ignoreCase
  | ['L'] => some .locale
  | ['m'] => some .multiline
  | ['s'] => some .dotAll
  | ['x'] => some .verbose
  | ['a'] => some .ascii
  | ['t'] => some .unrepeated
  | ['u'] => some .unicode
  | _ => none

/-- Whether the flag chooses a character set. -/
def Flag.choosesSet : Flag → Bool
  | .ascii => true
  | .unicode => true
  | .locale => true
  | _ => false

/-- The flags with one of them set to a value. -/
def Flags.put (f : Flags) (value : Bool) : Flag → Flags
  | .ignoreCase => { f with ignoreCase := value }
  | .multiline => { f with multiline := value }
  | .dotAll => { f with dotAll := value }
  | .verbose => { f with verbose := value }
  | .ascii => { f with ascii := value, unicode := f.unicode && !value }
  | .unicode => { f with unicode := value, ascii := f.ascii && !value }
  | .unrepeated => { f with unrepeated := value }
  | .locale => f

/-- The kinds of characters that have an escape. -/
inductive Category where
  | digit
  | space
  | word
deriving DecidableEq

/-- A member of a character set. -/
inductive SetItem where
  | char (c : Char)
  | range (first last : Char)
  | category (kind : Category) (negated : Bool)
deriving DecidableEq

/-- A place that an anchor holds at. -/
inductive Anchor where
  | lineStart
  | lineEnd
  | textStart
  | textEnd
  | boundary
  | inside
deriving DecidableEq

/-- How often a repetition tries its body first. -/
inductive Eagerness where
  | greedy
  | lazy
  /-- As often as possible, and never less often afterwards. -/
  | possessive
deriving DecidableEq

/-- A regular expression. -/
inductive Form where
  | empty
  | char (c : Char)
  | notChar (c : Char)
  | set (negated : Bool) (items : List SetItem)
  | any
  | anchor (a : Anchor)
  | seq (first second : Form)
  | either (first second : Form)
  /-- A capture group. -/
  | capture (index : Nat) (body : Form)
  /-- A group that turns flags on and others off. -/
  | scoped (on off : List Flag) (body : Form)
  /-- A group that keeps its first match. -/
  | atomic (body : Form)
  /-- A condition on what follows. -/
  | ahead (negated : Bool) (body : Form)
  /-- A condition on what stands before, of a fixed width. -/
  | behind (negated : Bool) (width : Nat) (body : Form)
  /-- The text of a group. -/
  | reference (index : Nat)
  /-- One form if a group has matched, and another one if it has not. -/
  | choice (index : Nat) (yes no : Form)
  /-- A repetition from a least to a greatest count, if there is one. -/
  | repeated (eagerness : Eagerness) (least : Nat) (greatest : Option Nat) (body : Form)

/-- The forms of a list in sequence. -/
def Form.ofList : List Form → Form
  | [] => .empty
  | [f] => f
  | f :: fs => .seq f (ofList fs)

/-! ## Complaints -/

/-- What is wrong with a text that is no pattern. -/
inductive Complaint where
  | badEscapeAtEnd
  | badEscape (escape : String)
  | incompleteEscape (escape : String)
  | octalTooLarge (escape : String)
  | missing (what : String)
  | undefinedCharacter (name : String)
  | openGroup
  | groupOfSameLookbehind
  | noSuchGroup (index : Nat)
  | unterminatedSet
  | badRange (first last : String)
  | leastAboveGreatest
  | nothingToRepeat
  | repeatedRepetition
  | unexpectedEnd
  | unknownExtension (text : String)
  | badGroupName (name : String)
  | unknownGroupName (name : String)
  | redefinedGroup (name : String) (index previous : Nat)
  | badGroupNumber
  | tooManyBranches
  | lateFlags
  | inlineFlags (reason : String)
  | unknownFlag
  | unbalanced
  | varyingLookbehind
  | distantLookbehind
  | unsupportedRepetition (eagerness : Eagerness)
deriving DecidableEq

/-- The name of a repetition in complaints. -/
def Eagerness.label : Eagerness → String
  | .greedy => "MAX_REPEAT"
  | .lazy => "MIN_REPEAT"
  | .possessive => "POSSESSIVE_REPEAT"

/-- The wording of a complaint. -/
def Complaint.message : Complaint → String
  | .badEscapeAtEnd => "bad escape (end of pattern)"
  | .badEscape e => "bad escape " ++ e
  | .incompleteEscape e => "incomplete escape " ++ e
  | .octalTooLarge e => "octal escape value " ++ e ++ " outside of range 0-0o377"
  | .missing what => "missing " ++ what
  | .undefinedCharacter name => "undefined character name " ++ Text.quoted name
  | .openGroup => "cannot refer to an open group"
  | .groupOfSameLookbehind => "cannot refer to group defined in the same lookbehind subpattern"
  | .noSuchGroup n => s!"invalid group reference {n}"
  | .unterminatedSet => "unterminated character set"
  | .badRange a b => "bad character range " ++ a ++ "-" ++ b
  | .leastAboveGreatest => "min repeat greater than max repeat"
  | .nothingToRepeat => "nothing to repeat"
  | .repeatedRepetition => "multiple repeat"
  | .unexpectedEnd => "unexpected end of pattern"
  | .unknownExtension e => "unknown extension " ++ e
  | .badGroupName name => "bad character in group name " ++ Text.quoted name
  | .unknownGroupName name => "unknown group name " ++ Text.quoted name
  | .redefinedGroup name n previous =>
    "redefinition of group name " ++ Text.quoted name ++ s!" as group {n}; was group {previous}"
  | .badGroupNumber => "bad group number"
  | .tooManyBranches => "conditional backref with more than two branches"
  | .lateFlags => "global flags not at the start of the expression"
  | .inlineFlags reason => "bad inline flags: " ++ reason
  | .unknownFlag => "unknown flag"
  | .unbalanced => "unbalanced parenthesis"
  | .varyingLookbehind => "look-behind requires fixed-width pattern"
  | .distantLookbehind => "looks too much behind"
  | .unsupportedRepetition e =>
    "internal: unsupported template operator " ++ e.label

/-- A complaint and the position it points at, if it points at one. -/
structure Malformed where
  complaint : Complaint
  position : Option Nat
deriving DecidableEq

/-- The wording of a complaint about a pattern. In a pattern of several lines the position is also
given by line and column. -/
def Malformed.message (m : Malformed) (pattern : List Char) : String :=
  match m.position with
  | none => m.complaint.message
  | some position =>
    let before := pattern.take position
    let line := before.count '\n' + 1
    let column := (before.reverse.takeWhile (· != '\n')).length + 1
    m.complaint.message ++ s!" at position {position}"
      ++ (if pattern.contains '\n' then s!" (line {line}, column {column})" else "")

end TemplateRules.Pattern
