import TemplateRules.Defect
import TemplateRules.Version.Basic
import TemplateRules.Text.Word

/-!
# Version constraints

A constraint is a comparison and the version it compares with: `>=7.0.0`, `~>7.1`, `^7`. A version
alone asks for equality. Versions are compared as what they write, but a version is judged only if its
numerals and those of the target are not too long.

## Main definitions

* `Constraint.ofText?`: reads a constraint
* `satisfies?`: whether a version satisfies a constraint
* `judge`: the same where the length of numerals counts
-/

namespace TemplateRules

open Text

/-- How an actual version is compared with a target. -/
inductive Comparison where
  | atLeast
  | atMost
  /-- At least the target, with the same major and minor component. -/
  | sameMinor
  | above
  | below
  /-- At least the target, with the same major component. -/
  | sameMajor
  | equal
deriving DecidableEq

/-- The sign of a comparison. -/
def Comparison.sign : Comparison → String
  | .atLeast => ">="
  | .atMost => "<="
  | .sameMinor => "~>"
  | .above => ">"
  | .below => "<"
  | .sameMajor => "^"
  | .equal => "="

/-- Whether the comparison holds between two keys. -/
def Comparison.holds (c : Comparison) (actual target : Version.Key) : Bool :=
  let order := Version.compareKeys actual target
  match c with
  | .atLeast => order.isGE
  | .above => order.isGT
  | .atMost => order.isLE
  | .below => order.isLT
  | .equal => order.isEq
  | .sameMinor => actual.major == target.major && actual.minor == target.minor && order.isGE
  | .sameMajor => actual.major == target.major && order.isGE

/-- A comparison with a version text. -/
structure Constraint where
  comparison : Comparison
  target : String
deriving DecidableEq

namespace Constraint

/-! ## Reading -/

/-- Splits off the sign in front; no sign asks for equality. -/
def splitSign : List Char → Comparison × List Char
  | '>' :: '=' :: cs => (.atLeast, cs)
  | '<' :: '=' :: cs => (.atMost, cs)
  | '~' :: '>' :: cs => (.sameMinor, cs)
  | '>' :: cs => (.above, cs)
  | '<' :: cs => (.below, cs)
  | '^' :: cs => (.sameMajor, cs)
  | '=' :: cs => (.equal, cs)
  | cs => (.equal, cs)

/-- What follows a nonempty run of characters of a class. -/
def afterRun? (inClass : Char → Bool) (cs : List Char) : Option (List Char) :=
  match cs with
  | [] => none
  | c :: rest => if inClass c then some (rest.dropWhile inClass) else none

/-- What follows a mark and a nonempty run of characters of a class, or all of it. -/
def afterMarkedRun (mark : Char) (inClass : Char → Bool) (cs : List Char) : List Char :=
  match cs with
  | [] => []
  | c :: rest => if c == mark then (afterRun? inClass rest).getD cs else cs

/-- The characters of tags and of build metadata. -/
def isTagChar (c : Char) : Bool := isWord c || c == '.' || c == '-'

/-- Whether a text is a version as constraints write it: an optional `v`, one to three numbers, an
optional tag and optional build metadata. -/
def isTarget (cs : List Char) : Bool :=
  let body := match cs with
    | 'v' :: rest => rest
    | _ => cs
  match afterRun? isDecimal body with
  | none => false
  | some rest =>
    let rest := afterMarkedRun '.' isDecimal (afterMarkedRun '.' isDecimal rest)
    (afterMarkedRun '+' isTagChar (afterMarkedRun '-' isTagChar rest)).isEmpty

/-- Reads a constraint, which may stand between blanks. -/
def ofText? (s : String) : Option Constraint :=
  let (comparison, rest) := splitSign (stripChars s.toList)
  let target := rest.dropWhile isBlank
  if isTarget target then some ⟨comparison, String.ofList target⟩ else none

/-- The wording for a text that is no constraint. -/
def malformedMessage (s : String) : String := "Invalid version constraint: '" ++ s ++ "'"

/-! ## Meaning -/

/-- Whether a version satisfies the constraint; one that is not known satisfies none. -/
def admits (c : Constraint) (version : Option String) : Bool :=
  match version with
  | none => false
  | some v =>
    Version.isKnown (some v) && c.comparison.holds (Version.ofText v).key (Version.ofText c.target).key

end Constraint

/-- Whether a version satisfies the constraint that a text writes, if it writes one. Numerals may have
any length. -/
def satisfies? (version : Option String) (constraint : String) : Option Bool :=
  (Constraint.ofText? constraint).map (·.admits version)

/-! ## Judging versions -/

/-- Why a version cannot be judged by a constraint. -/
inductive ConstraintFault where
  | malformed
  /-- A numeral with too many digits, by their number. -/
  | digits (count : Nat)
deriving DecidableEq

/-- The wording of a fault of a constraint and the version it is for. -/
def ConstraintFault.message (constraint : String) : ConstraintFault → String
  | .malformed => Constraint.malformedMessage constraint
  | .digits count => (Defect.digits count).message

namespace Constraint

/-- The number of digits of a numeral that is too long, of the version or else of the target. A version
that is not known is not looked into. -/
def overlong? (c : Constraint) (version : Option String) : Option Nat := do
  let known ← version.filter fun v => Version.isKnown (some v)
  (Version.overlong? known).or (Version.overlong? c.target)

end Constraint

/-- Whether a version satisfies the constraint that a text writes, where the length of numerals counts. -/
def judge (version : Option String) (constraint : String) : Except ConstraintFault Bool :=
  match satisfies? version constraint with
  | none => .error .malformed
  | some answer =>
    match (Constraint.ofText? constraint).bind (·.overlong? version) with
    | some count => .error (.digits count)
    | none => .ok answer

end TemplateRules
