import TemplateRules.Digest.Sha256
import TemplateRules.Text.Search

/-!
# Fingerprints

A fingerprint combines labelled parts into one digest. Every part is digested on its own first, so
that what is fed to the outer digest is a sequence of records `label:digest;`, with a dash in place of
the digest for a part that is missing.
-/

namespace TemplateRules.Digest

open Text (joinWith)

/-- A labelled part; it may be missing. -/
abbrev Part := String × Option String

/-- The record of one part. -/
def partRecord (part : Part) : String :=
  part.1 ++ ":" ++ ((part.2.map sha256).getD "-") ++ ";"

/-- The text that the outer digest is taken of. -/
def partStream (parts : List Part) : String := String.join (parts.map partRecord)

/-- The digest of labelled parts. -/
def fingerprint (parts : List Part) : String := sha256 (partStream parts)

/-- A text of a map that does not depend on the order of its entries. -/
def mappingText (entries : List (String × String)) : String :=
  joinWith "\n" ((entries.mergeSort fun a b => a.1 ≤ b.1).map fun (k, v) => k ++ "=" ++ v)

/-- The names under which two snapshots hold different values, in order. -/
def changedEntries (previous current : List (String × String)) : List String :=
  let names := (previous ++ current).map (·.1)
  (names.eraseDups.filter fun n => previous.lookup n != current.lookup n).mergeSort (· ≤ ·)

end TemplateRules.Digest
