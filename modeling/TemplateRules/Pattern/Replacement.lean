import TemplateRules.Pattern.Compiled

/-!
# Replacement texts of patterns

A replacement refers to groups as `$1`, `\1`, by name in braces after a dollar, or as `\g<name>`. A
backslash before a dollar or a backslash stands for the character after it; any other backslash is
kept as written. Digits refer to the group of the longest prefix that is the number of a group, and
the digits after it are ordinary characters. Numbers may be read with as many digits as they like, or with
a bound on how many these are.
-/

namespace TemplateRules.Pattern

open Text

/-! ## Tokens -/

/-- A token of a replacement text. -/
inductive Mark where
  | char (c : Char)
  /-- Digits after a dollar or a backslash. -/
  | digits (ds : List Char)
  /-- A name in braces after a dollar, or in angle brackets after `\g`. -/
  | name (cs : List Char)
  /-- Another character after a backslash. -/
  | escaped (c : Char)
deriving DecidableEq

/-- A nonempty name that a closing character follows. -/
def closedName? (close : Char) (cs : List Char) : Option (List Char) :=
  let name := cs.takeWhile isWord
  if !name.isEmpty && (cs.dropWhile isWord).head? == some close then some name else none

/-- The token that the characters begin with, and the number of characters it has. -/
def firstMark (c : Char) (cs : List Char) : Mark × Nat :=
  let ds := cs.takeWhile isDecimal
  match c, cs with
  -- A name that is not closed makes no reference: its sign stands for itself.
  | '$', '\x7b' :: rest =>
    match closedName? '\x7d' rest with
    | some name => (.name name, name.length + 3)
    | none => (.char c, 1)
  | '$', _ => if ds.isEmpty then (.char c, 1) else (.digits ds, ds.length + 1)
  | '\\', 'g' :: '<' :: rest =>
    match closedName? '>' rest with
    | some name => (.name name, name.length + 4)
    | none => (.escaped 'g', 2)
  | '\\', d :: _ => if ds.isEmpty then (.escaped d, 2) else (.digits ds, ds.length + 1)
  | _, _ => (.char c, 1)

/-- The tokens of a text, where the first `skip` characters belong to a token that has begun. -/
def marksFrom : (skip : Nat) → List Char → List Mark
  | _, [] => []
  | skip + 1, _ :: cs => marksFrom skip cs
  | 0, c :: cs => (firstMark c cs).1 :: marksFrom ((firstMark c cs).2 - 1) cs

/-- The tokens of a text. -/
def marks (cs : List Char) : List Mark := marksFrom 0 cs

/-! ## Pieces -/

/-- A piece of a replacement: characters, or the text of a group. -/
inductive Piece where
  | chars (cs : List Char)
  | group (index : Nat)
deriving DecidableEq

/-- Why a replacement does not go with a pattern. -/
inductive ReplacementFault where
  /-- A number, by its first digit, that is not even in part the number of a group. -/
  | noSuchGroup (digit : Char)
  /-- A name of digits with digits left over. -/
  | leftover (name : String)
  | unknownName (name : String)
  | defect (d : Defect)
deriving DecidableEq

/-- The group whose number is the longest prefix of the digits that has at most `length` of them and
is the number of a group, and the digits after it. -/
def longestGroup? (groups : Nat) (ds : List Char) : (length : Nat) → Option (Nat × List Char)
  | 0 => none
  | n + 1 =>
    let index := decimalNumber (ds.take (n + 1))
    if index ≤ groups then some (index, ds.drop (n + 1)) else longestGroup? groups ds n

/-- The number of decimal digits that a numeral begins with, if they are more than it may have. -/
def excess? (most : Option Nat) (ds : List Char) : Option Nat :=
  most.bind fun n => (some (ds.takeWhile isDecimal).length).filter (n < ·)

/-- The group that digits refer to, and the digits after its number. -/
def groupOfDigits (most : Option Nat) (groups : Nat) (ds : List Char) :
    Except ReplacementFault (Nat × List Char) :=
  match excess? most ds with
  | some count => .error (.defect (.digits count))
  | none =>
    -- Only the digits of a name can be other than decimal.
    if !ds.all isDecimal then .error (.defect (.integer 10 (String.ofList ds)))
    else match longestGroup? groups ds ds.length with
      | some found => .ok found
      | none => .error (.noSuchGroup (ds.head?.getD '0'))

/-- The group that a name refers to. A name of digits is a number, all of which must be used. -/
def groupOfName (most : Option Nat) (groups : Nat) (names : List (String × Nat)) (name : List Char) :
    Except ReplacementFault Nat :=
  if isAllDigits name then
    match groupOfDigits most groups name with
    | .error e => .error e
    | .ok (index, rest) =>
      if rest.isEmpty then .ok index else .error (.leftover (String.ofList name))
  else match names.lookup (String.ofList name) with
    | some index => .ok index
    | none => .error (.unknownName (String.ofList name))

/-- The pieces that a token stands for. -/
def Mark.pieces (most : Option Nat) (groups : Nat) (names : List (String × Nat)) :
    Mark → Except ReplacementFault (List Piece)
  | .char c => .ok [.chars [c]]
  | .digits ds => (groupOfDigits most groups ds).map fun (index, rest) => [.group index, .chars rest]
  | .name cs => (groupOfName most groups names cs).map fun index => [.group index]
  | .escaped c => .ok [.chars (if c == '$' || c == '\\' then [c] else ['\\', c])]

/-- The pieces of a replacement text, for a pattern with `groups` groups, some of them named. Numbers have
`most` digits at most, if there is a bound. -/
def replacementPieces (most : Option Nat) (groups : Nat) (names : List (String × Nat)) (cs : List Char) :
    Except ReplacementFault (List Piece) :=
  ((marks cs).mapM (Mark.pieces most groups names)).map List.flatten

/-- The text of pieces at a match. -/
def piecesAt (pieces : List Piece) (group : Nat → List Char) : List Char :=
  pieces.flatMap fun
    | .chars cs => cs
    | .group index => group index

/-- The wording of a fault. -/
def ReplacementFault.message (pattern : Pattern) (replacement : String) : ReplacementFault → String
  | .noSuchGroup digit =>
    "Replacement '" ++ replacement ++ "' refers to group " ++ digit.toString ++ " but pattern '"
      ++ pattern.source ++ s!"' has {pattern.groups}"
  | .leftover name => "Replacement '" ++ replacement ++ "' refers to unknown group '" ++ name ++ "'"
  | .unknownName name =>
    "Replacement '" ++ replacement ++ "' refers to unknown group '" ++ name ++ "' in pattern '"
      ++ pattern.source ++ "'"
  | .defect d => d.message

end TemplateRules.Pattern
