import TemplateRules.Text.Search
import TemplateRules.Trace

/-!
# Literal edits

Insertions next to the first occurrence of an anchor and replacements of literal texts. An anchor or
text that does not occur is no error: the text stays as it is, so that rules keep working while the
templates that they are written for change.
-/

namespace TemplateRules.Edit

open Text

/-! ## The edits -/

/-- The text with content put right after the first occurrence of the anchor. -/
def insertedAfter? (text anchor content : String) : Option String :=
  (around? anchor.toList text.toList).map fun (before, after) =>
    String.ofList (before ++ anchor.toList ++ content.toList ++ after)

/-- The text with content put right before the first occurrence of the anchor. -/
def insertedBefore? (text anchor content : String) : Option String :=
  (around? anchor.toList text.toList).map fun (before, after) =>
    String.ofList (before ++ content.toList ++ anchor.toList ++ after)

/-- The text with the first occurrence of `find` replaced; an empty `find` replaces nothing. -/
def replaceFirst (text find replacement : String) : String :=
  if find.isEmpty then text
  else match around? find.toList text.toList with
    | none => text
    | some (before, after) => String.ofList (before ++ replacement.toList ++ after)

/-- The number of occurrences that replacing everywhere replaces. -/
def occurrences (text find : String) : Nat :=
  if find.isEmpty then 0 else (pieces find.toList text.toList).length - 1

/-- The text with the occurrences of `find` replaced, leftmost first and without overlap. -/
def replacedAll (text find replacement : String) : String :=
  if find.isEmpty then text
  else String.ofList (replacement.toList.intercalate (pieces find.toList text.toList))

/-! ## Traced edits -/

/-- Line ends and tabs as trace records show them. -/
def onOneLine (s : String) : String :=
  String.ofList (s.toList.flatMap fun c =>
    if c == '\n' then ['\\', 'n'] else if c == '\r' then ['\\', 'r']
    else if c == '\t' then ['\\', 't'] else [c])

/-- Leaves a record of a literal edit. -/
def noteEdit (text : String) : Traced Unit := .note .debug .edits text

/-- Inserts right after the first occurrence of the anchor. -/
def insertAfter (text anchor content : String) : Traced String :=
  match insertedAfter? text anchor content with
  | some result => pure result
  | none => do
    noteEdit ("Anchor '" ++ onOneLine anchor ++ "' not found for insertion")
    return text

/-- Inserts right before the first occurrence of the anchor. -/
def insertBefore (text anchor content : String) : Traced String :=
  match insertedBefore? text anchor content with
  | some result => pure result
  | none => do
    noteEdit ("Anchor '" ++ onOneLine anchor ++ "' not found for insertion")
    return text

/-- Replaces every occurrence. -/
def replaceAll (text find replacement : String) : Traced String :=
  match occurrences text find with
  | 0 => do
    noteEdit ("Pattern '" ++ onOneLine find ++ "' not found for replacement")
    return text
  | n + 1 => do
    noteEdit (s!"Replacing {n + 1} occurrence(s) of '" ++ onOneLine find ++ "'")
    return replacedAll text find replacement

end TemplateRules.Edit
