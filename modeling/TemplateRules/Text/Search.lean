import TemplateRules.Text.CodeRanges

/-!
# Occurrences of one text in another

The first occurrence of a text is given by what stands before it and after it. A text that has an
occurrence replaced everywhere is the list of pieces between the leftmost occurrences that do not
overlap, joined by the replacement.
-/

namespace TemplateRules.Text

/-- What stands before and after the first occurrence of `p`. -/
def around? (p : List Char) : List Char → Option (List Char × List Char)
  | [] => if p.isEmpty then some ([], []) else none
  | c :: cs =>
    if p.isPrefixOf (c :: cs) then some ([], (c :: cs).drop p.length)
    else (around? p cs).map fun (before, after) => (c :: before, after)

/-- Whether `p` occurs in the characters. -/
def occursIn (p text : List Char) : Bool := (around? p text).isSome

/-- Whether `probe` occurs in `text`. -/
def contains (text probe : String) : Bool := occursIn probe.toList text.toList

/-- The pieces between the leftmost occurrences of a nonempty `p` that do not overlap, where the
first `skip` characters belong to an occurrence that has begun. -/
def piecesFrom (p : List Char) : (skip : Nat) → List Char → List (List Char)
  | _, [] => [[]]
  | skip + 1, _ :: cs => piecesFrom p skip cs
  | 0, c :: cs =>
    if p.isPrefixOf (c :: cs) then [] :: piecesFrom p (p.length - 1) cs
    else match piecesFrom p 0 cs with
      | [] => [[c]]
      | piece :: rest => (c :: piece) :: rest

/-- The pieces between the leftmost occurrences of a nonempty `p` that do not overlap. -/
def pieces (p text : List Char) : List (List Char) := piecesFrom p 0 text

/-- The text after a prefix, if it begins with it. -/
def after? (start text : String) : Option String :=
  if start.toList.isPrefixOf text.toList then
    some (String.ofList (text.toList.drop start.toList.length))
  else none

/-- Whether the text begins with `start`. -/
def startsWith (text start : String) : Bool := start.toList.isPrefixOf text.toList

/-- Whether the text ends with `finish`. -/
def endsWith (text finish : String) : Bool := finish.toList.isSuffixOf text.toList

/-- The text with one character in place of another. -/
def replaceChar (old new : Char) (text : String) : String :=
  String.ofList (text.toList.map fun c => if c == old then new else c)

/-- What stands before and after the first `mark`. -/
def cutAt? (mark : Char) (text : String) : Option (String × String) :=
  let cs := text.toList
  if cs.contains mark then
    some (String.ofList (cs.takeWhile (· != mark)), String.ofList ((cs.dropWhile (· != mark)).drop 1))
  else none

/-- The texts with a separator between neighbours. -/
def joinWith (separator : String) (parts : List String) : String := separator.intercalate parts

end TemplateRules.Text
