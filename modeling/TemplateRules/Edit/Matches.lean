import TemplateRules.Failure

/-!
# Edits of pattern matches

Every match of a pattern is replaced, once it is known that there is one. The replacement is read only
then: as long as nothing matches, a replacement that does not go with the pattern does no harm.
-/

namespace TemplateRules.Edit

/-- Reads a pattern. -/
def compilePattern (source : String) : Except Failure Pattern :=
  match Pattern.compile source with
  | .ok p => .ok p
  | .error (.malformed m) => .error (.pattern (.pattern source m))
  | .error (.defect d) => .error (.defect d)

/-- The pieces of a replacement for the matches of a pattern. Numbers may have as many digits as they like,
unless `most` says how many. -/
def compileReplacement (p : Pattern) (replacement : String) (most : Option Nat := none) :
    Except Failure (List Pattern.Piece) :=
  match Pattern.replacementPieces most p.groups p.names replacement.toList with
  | .ok pieces => .ok pieces
  | .error (.defect d) => .error (.defect d)
  | .error fault =>
    .error (.pattern (.replacement p.source replacement (fault.message p replacement)))

/-- The text with every match of a pattern replaced by pieces. -/
def substituted (p : Pattern) (pieces : List Pattern.Piece) (text : String) : String :=
  let subject := text.toList
  String.ofList (p.substitute subject fun m => Pattern.piecesAt pieces (m.group subject))

/-- Replaces every match of a pattern. -/
def replaceMatches (text source replacement : String) : Attempt String := do
  let p ← liftM (compilePattern source)
  if !p.occursIn text.toList then
    Attempt.note .debug .edits ("Regex pattern '" ++ source ++ "' not found for replacement")
    return text
  let pieces ← liftM (compileReplacement p replacement (some Text.digitLimit))
  return substituted p pieces text

end TemplateRules.Edit
