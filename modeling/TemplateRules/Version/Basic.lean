import TemplateRules.Text.Blank
import TemplateRules.Text.Case
import TemplateRules.Text.Digit
import TemplateRules.Text.Search

/-!
# Versions

Versions arrive as loose texts: `7.14.0`, `v7.1`, `7.0.0-beta2`, `7.14.0-SNAPSHOT`. Three numeric
components are read by position, and what follows them is a pre-release tag of identifiers. Versions
are compared by a key: the components, then releases above pre-releases, then the identifiers.

## Main definitions

* `Version.ofText`: reads a loose text
* `Version.overlong?`: the length of a numeral that is too long to be read where length counts
* `Version.text`: the normal form of a version
* `Version.key`, `Version.compareKeys`: the order of versions
* `isKnown`: whether a detected version can be compared at all
-/

namespace TemplateRules

open Text

/-- A version: three numeric components and the identifiers of a pre-release tag. -/
structure Version where
  major : Nat
  minor : Nat
  patch : Nat
  tag : List String
deriving DecidableEq

namespace Version

/-! ## Reading -/

/-- The digits at the beginning of a component. -/
def leadingDigits (component : List Char) : List Char := component.takeWhile isDecimal

/-- The number at the beginning of a component; a component without one counts as zero. Its digits may be
as many as they like. -/
def leadingNumber (component : List Char) : Nat := decimalNumber (leadingDigits component)

/-- The number of the component at a position; a missing component counts as zero. -/
def numberAt (components : List (List Char)) (position : Nat) : Nat :=
  ((components[position]?).map leadingNumber).getD 0

/-- The text without a leading `v` and without build metadata. -/
def bareText (cs : List Char) : List Char :=
  let body := match cs with
    | c :: rest => if c == 'v' || c == 'V' then rest else cs
    | [] => []
  body.takeWhile (· != '+')

/-- The components of a bare text, which dots and dashes separate alike. -/
def components (cs : List Char) : List (List Char) := splitOn (fun c => c == '.' || c == '-') cs

/-- The identifiers of the tag: what follows the third component, in lower case, without the empty
parts and without those that are all digits. -/
def tagOf (components : List (List Char)) : List String :=
  -- Identifiers of digits only are taken for further numbers of the version, and dropped.
  ((components.drop 3).filter fun p => !p.isEmpty && !isAllDigits p).map fun p =>
    String.ofList (lowerChars p)

/-- Reads a loose version text; a blank one is version zero. -/
def ofText (s : String) : Version :=
  let parts := components (bareText (stripChars s.toList))
  ⟨numberAt parts 0, numberAt parts 1, numberAt parts 2, tagOf parts⟩

/-- Reads a version that may be missing, which counts as version zero. -/
def ofText? (s : Option String) : Version := ofText (s.getD "")

/-- The number of digits of the first component of a text that has more of them than a numeral may have.
Where length counts, such a text is no version at all. -/
def overlong? (s : String) : Option Nat :=
  (((components (bareText (stripChars s.toList))).take 3).map fun p => (leadingDigits p).length).find?
    (digitLimit < ·)

/-- The normal form: three components, and the tag after a dash. -/
def text (v : Version) : String :=
  let core := s!"{v.major}.{v.minor}.{v.patch}"
  if v.tag.isEmpty then core else core ++ "-" ++ joinWith "." v.tag

/-- Texts that stand for a version nobody detected. -/
def unknownTexts : List String := ["", "unknown", "undetected", "unspecified"]

/-- Whether a detected version can be compared. -/
def isKnown : Option String → Bool
  | none => false
  | some s => !unknownTexts.contains (lower (strip s))

/-! ## Order -/

/-- An identifier of a tag as it is compared. -/
inductive Identifier where
  | number (value : Nat)
  | text (value : String)
deriving DecidableEq

/-- An identifier of digits is compared as a number. -/
def Identifier.ofText (s : String) : Identifier :=
  if isAllDigits s.toList then .number (decimalNumber s.toList) else .text s

/-- Numbers come before texts. -/
def Identifier.order : Identifier → Identifier → Ordering
  | .number m, .number n => compare m n
  | .number _, .text _ => .lt
  | .text _, .number _ => .gt
  | .text s, .text t => compare s t

instance : Ord Identifier := ⟨Identifier.order⟩

/-- What versions are compared by. -/
structure Key where
  major : Nat
  minor : Nat
  patch : Nat
  /-- `1` for a release and `0` for a pre-release. -/
  release : Nat
  identifiers : List Identifier
deriving DecidableEq

/-- The key of a version. -/
def key (v : Version) : Key :=
  ⟨v.major, v.minor, v.patch, if v.tag.isEmpty then 1 else 0, v.tag.map Identifier.ofText⟩

/-- Keys are compared field by field. -/
def compareKeys : Key → Key → Ordering :=
  compareLex (compareOn Key.major) <| compareLex (compareOn Key.minor) <|
    compareLex (compareOn Key.patch) <| compareLex (compareOn Key.release) <|
      compareOn Key.identifiers

/-- The order of two version texts. -/
def order (left right : String) : Ordering := compareKeys (ofText left).key (ofText right).key

/-- Whether `version` is not below `minimum`. -/
def isAtLeast (version minimum : String) : Bool := (order version minimum).isGE

/-- Whether `version` is above `maximum`. -/
def isAbove (version maximum : String) : Bool := (order version maximum).isGT

end Version

end TemplateRules
