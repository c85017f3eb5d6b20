import TemplateRules.Failure
import TemplateRules.Value.Order

/-!
# The structure of rule documents

Before a document is bound, its value is walked and every key that has no place is refused, with a
piece of advice where the mistake is a common one. The walk follows fallbacks and nested conditions
down to a limit, so it ends on values that contain themselves. Then the shape of every part is
compared with that of its place; of all mismatches the one that is nearest to the root is reported.

## Main definitions

* `Structure.walk`: the walk over keys
* `Shape`, `Structure.mismatches`: the shapes of parts, and where a value differs from them
* `Structure.check`: both
-/

namespace TemplateRules.Structure

open Text (lower)

/-! ## Keys -/

/-- The keys of a document. -/
def rootKeys : List String := ["metadata", "conditions", "insertions", "replacements",
  "smartReplacements", "smartInsertions", "partials"]

/-- The keys of metadata. -/
def metadataKeys : List String := ["name", "description", "version", "author"]

/-- The keys of an insertion. -/
def insertionKeys : List String := ["after", "before", "at", "content", "conditions", "fallback"]

/-- The keys of a replacement. -/
def replacementKeys : List String := ["find", "replace", "type", "conditions", "fallback"]

/-- The keys of a smart replacement. -/
def smartReplacementKeys : List String :=
  ["findAny", "semantic", "findPattern", "replace", "conditions"]

/-- The keys of a smart insertion. -/
def smartInsertionKeys : List String :=
  ["semantic", "findInsertionPoint", "content", "conditions", "fallback"]

/-- The keys of the variants of a pattern. -/
def variantKeys : List String := ["type", "variants"]

/-- The keys of an insertion point. -/
def insertionPointKeys : List String := ["patterns"]

/-- The keys of a location. -/
def locationKeys : List String := ["after", "before"]

/-- The keys of a condition set. -/
def conditionKeys : List String := ["generatorVersion", "templateContains", "templateNotContains",
  "templateContainsAll", "templateContainsAny", "hasFeature", "hasAllFeatures", "hasAnyFeatures",
  "projectProperty", "environmentVariable", "buildType", "allOf", "anyOf", "not"]

/-- The part of a document that a map stands for, as far as keys are concerned. -/
inductive Section where
  | metadata
  | conditions
  | insertions
  | replacements
  | smartReplacements
  | smartInsertions
  | variants
  | insertionPoint
  | location
deriving DecidableEq

/-- The keys of a section. -/
def Section.keys : Section → List String
  | .metadata => metadataKeys
  | .conditions => conditionKeys
  | .insertions => insertionKeys
  | .replacements => replacementKeys
  | .smartReplacements => smartReplacementKeys
  | .smartInsertions => smartInsertionKeys
  | .variants => variantKeys
  | .insertionPoint => insertionPointKeys
  | .location => locationKeys

/-- What to use instead of a key that is often mistaken for one of the section. -/
def Section.advice : Section → List (String × String)
  | .insertions => [
    ("pattern", "Use 'after' or 'before' instead of 'pattern'"),
    ("position", "Use 'after', 'before', or 'at' instead of 'position'"),
    ("find", "Insertions locate anchors with 'after' or 'before', not 'find'")]
  | .replacements => [
    ("pattern", "Use 'find' instead of 'pattern'"),
    ("with", "Use 'replace' instead of 'with'"),
    ("replacement", "Use 'replace' instead of 'replacement'"),
    ("regex", "Use 'type: regex' together with 'find'")]
  | .smartReplacements => [
    ("find", "Use 'findAny' (a list of candidates) instead of 'find'")]
  | .smartInsertions => [
    ("after", "Use 'findInsertionPoint' with a 'patterns' list of after/before anchors"),
    ("before", "Use 'findInsertionPoint' with a 'patterns' list of after/before anchors")]
  | _ => []

/-! ## The walk -/

/-- A step of the walk: nothing, or why the document cannot be used. -/
abbrev Walk := Except ConfigurationCause Unit

section

variable {ρ : Type} (view : View ρ)

/-- The entries of a map. -/
def requireMap (path : String) (v : ρ) : Except ConfigurationCause (List (Scalar × ρ)) :=
  match view.layer v with
  | .map entries => .ok entries
  | _ => .error (.notMap path)

/-- The items of a list. -/
def requireList (path : String) (v : ρ) : Except ConfigurationCause (List ρ) :=
  match view.layer v with
  | .list items => .ok items
  | _ => .error (.notList path)

/-- Whether a key is one of some names. -/
def isAmong (names : List String) : Scalar → Bool
  | .text s => names.contains s
  | _ => false

/-- Refuses the first key that the section does not have. -/
def checkKeys (s : Section) (path : String) (entries : List (Scalar × ρ)) : Walk :=
  match entries.find? fun e => !isAmong s.keys e.1 with
  | none => .ok ()
  | some (key, _) =>
    match s.advice.lookup (lower key.plain) with
    | some advice => .error (.misusedKey path key advice)
    | none => .error (.unknownKey path key s.keys)

/-- Checks the value under a key, if there is one. -/
def checkUnder (key : String) (entries : List (Scalar × ρ)) (check : ρ → Walk) : Walk :=
  match lookupKey key entries with
  | some v => check v
  | none => .ok ()

/-- Checks every item of a list. -/
def checkItems (path : String) (check : String → ρ → Walk) (items : List ρ) : Walk :=
  items.zipIdx.forM fun (v, i) => check (itemPath path i) v

/-- Checks a condition set whose nested sets may be `budget - 1` levels deep. -/
def walkConditions (limit : Int) : (budget : Nat) → (path : String) → ρ → Walk
  | 0, path, _ => .error (.tooDeep path limit)
  | budget + 1, path, v => do
    let entries ← requireMap view path v
    checkKeys .conditions path entries
    for key in ["allOf", "anyOf"] do
      checkUnder key entries fun nested => do
        let inner := path ++ "." ++ key
        checkItems inner (walkConditions limit budget) (← requireList view inner nested)
    checkUnder "not" entries (walkConditions limit budget (path ++ ".not"))

/-- Checks the conditions of a rule. -/
def walkRuleConditions (limit : Int) (path : String) (entries : List (Scalar × ρ)) : Walk :=
  checkUnder "conditions" entries
    (walkConditions view limit (limit + 1).toNat (path ++ ".conditions"))

/-- Refuses a rule without a key. -/
def requireKey (path key : String) (entries : List (Scalar × ρ)) : Walk :=
  if hasKey key entries then .ok () else .error (.missingKey path key)

/-- Checks an insertion that may have `budget` fallbacks. -/
def walkInsertion (limit : Int) : (budget : Nat) → (path : String) → ρ → Walk
  | budget, path, v => do
    let entries ← requireMap view path v
    checkKeys .insertions path entries
    walkRuleConditions view limit path entries
    checkUnder "fallback" entries fun fallback =>
      match budget with
      | 0 => .error (.longChain path limit)
      | budget + 1 => walkInsertion limit budget (fallbackPath path) fallback

/-- Checks a replacement that may have `budget` fallbacks. -/
def walkReplacement (limit : Int) : (budget : Nat) → (path : String) → ρ → Walk
  | budget, path, v => do
    let entries ← requireMap view path v
    -- Missing keys are reported before unknown ones.
    requireKey path "find" entries
    requireKey path "replace" entries
    checkKeys .replacements path entries
    walkRuleConditions view limit path entries
    checkUnder "fallback" entries fun fallback =>
      match budget with
      | 0 => .error (.longChain path limit)
      | budget + 1 => walkReplacement limit budget (fallbackPath path) fallback

/-- Checks a smart replacement. -/
def walkSmartReplacement (limit : Int) (path : String) (v : ρ) : Walk := do
  let entries ← requireMap view path v
  checkKeys .smartReplacements path entries
  checkUnder "findPattern" entries fun variants => do
    let inner := path ++ ".findPattern"
    checkKeys .variants inner (← requireMap view inner variants)
  walkRuleConditions view limit path entries

/-- Checks a location. -/
def walkLocation (path : String) (v : ρ) : Walk := do
  checkKeys .location path (← requireMap view path v)

/-- Checks an insertion point. -/
def walkInsertionPoint (path : String) (v : ρ) : Walk := do
  let entries ← requireMap view path v
  checkKeys .insertionPoint path entries
  checkUnder "patterns" entries fun patterns => do
    let inner := path ++ ".patterns"
    checkItems inner (walkLocation view) (← requireList view inner patterns)

/-- Checks a smart insertion. Its fallback counts as the first of a chain. -/
def walkSmartInsertion (limit : Int) (path : String) (v : ρ) : Walk := do
  let entries ← requireMap view path v
  checkKeys .smartInsertions path entries
  checkUnder "findInsertionPoint" entries (walkInsertionPoint view (path ++ ".findInsertionPoint"))
  walkRuleConditions view limit path entries
  checkUnder "fallback" entries (walkInsertion view limit (limit - 1).toNat (fallbackPath path))

/-- Checks metadata, which may be null. -/
def walkMetadata (v : ρ) : Walk :=
  match view.layer v with
  | .scalar .null => .ok ()
  | _ => do checkKeys .metadata "metadata" (← requireMap view "metadata" v)

/-- Checks the list of rules under a key. -/
def walkRules (key : String) (check : String → ρ → Walk) (entries : List (Scalar × ρ)) : Walk :=
  checkUnder key entries fun v => do checkItems key check (← requireList view key v)

/-- Checks the keys of a document, down to `limit` fallbacks and levels of conditions. -/
def walk (limit : Int) (root : ρ) : Except ConfigurationCause Unit :=
  match view.layer root with
  | .scalar .null => .error .empty
  | .map entries => do
    -- The keys at the root are judged before any of the parts.
    if let some (key, _) := entries.find? fun e => !isAmong rootKeys e.1 then
      throw (.unknownRootKey key rootKeys)
    checkUnder "metadata" entries (walkMetadata view)
    checkUnder "conditions" entries (walkConditions view limit (limit + 1).toNat "conditions")
    walkRules view "insertions" (walkInsertion view limit limit.toNat) entries
    walkRules view "replacements" (walkReplacement view limit limit.toNat) entries
    walkRules view "smartReplacements" (walkSmartReplacement view limit) entries
    walkRules view "smartInsertions" (walkSmartInsertion view limit) entries
    checkUnder "partials" entries fun v => discard (requireMap view "partials" v)
  | _ => .error .rootNotMap

end

/-! ## Shapes -/

/-- The maps of a document that have a shape. -/
inductive Form where
  | document
  | metadata
  | conditions
  | insertion
  | replacement
  | smartReplacement
  | variants
  | smartInsertion
  | insertionPoint
  | location
deriving DecidableEq

/-- The shape of a part. -/
inductive Shape where
  | text
  | textOrNumber
  /-- A text that names a kind of replacement. -/
  | kind
  | list (item : Shape)
  | form (form : Form)
  | formOrNull (form : Form)
  /-- A map from anything to texts. -/
  | texts
deriving DecidableEq

/-- The properties that a map of a form must have. -/
def Form.required : Form → List String
  | .insertion => ["content"]
  | .replacement => ["find", "replace"]
  | .smartReplacement => ["replace"]
  | .variants => ["type", "variants"]
  | .smartInsertion => ["content"]
  | .insertionPoint => ["patterns"]
  | _ => []

/-- The shapes of the properties of a map of a form. -/
def Form.properties : Form → List (String × Shape)
  | .document => [
    ("metadata", .formOrNull .metadata), ("conditions", .form .conditions),
    ("insertions", .list (.form .insertion)), ("replacements", .list (.form .replacement)),
    ("smartReplacements", .list (.form .smartReplacement)),
    ("smartInsertions", .list (.form .smartInsertion)), ("partials", .texts)]
  | .metadata => [
    ("name", .text), ("description", .text), ("version", .textOrNumber), ("author", .text)]
  | .conditions => [
    ("generatorVersion", .text), ("templateContains", .text), ("templateNotContains", .text),
    ("templateContainsAll", .list .text), ("templateContainsAny", .list .text),
    ("hasFeature", .text), ("hasAllFeatures", .list .text), ("hasAnyFeatures", .list .text),
    ("projectProperty", .text), ("environmentVariable", .text), ("buildType", .text),
    ("allOf", .list (.form .conditions)), ("anyOf", .list (.form .conditions)),
    ("not", .form .conditions)]
  | .insertion => [
    ("after", .text), ("before", .text), ("at", .text), ("content", .text),
    ("conditions", .form .conditions), ("fallback", .form .insertion)]
  | .replacement => [
    ("find", .text), ("replace", .text), ("type", .kind), ("conditions", .form .conditions),
    ("fallback", .form .replacement)]
  | .smartReplacement => [
    ("findAny", .list .text), ("semantic", .text), ("findPattern", .form .variants),
    ("replace", .text), ("conditions", .form .conditions)]
  | .variants => [("type", .text), ("variants", .list .text)]
  | .smartInsertion => [
    ("semantic", .text), ("findInsertionPoint", .form .insertionPoint), ("content", .text),
    ("conditions", .form .conditions), ("fallback", .form .insertion)]
  | .insertionPoint => [("patterns", .list (.form .location))]
  | .location => [("after", .text), ("before", .text)]

/-- The pattern of the texts that name a kind of replacement, as messages show it. -/
def kindPattern : String := "(?i)^\\s*(string|regex)\\s*$"

/-- Whether two texts have the same letters. -/
def sameLetters : List Char → List Char → Bool
  | [], [] => true
  | a :: as, b :: bs => Text.sameLetter a b && sameLetters as bs
  | _, _ => false

/-- Whether a text names a kind of replacement, without regard to case and surrounding blanks. -/
def namesKind (s : String) : Bool :=
  ["string", "regex"].any fun word => sameLetters word.toList (Text.stripChars s.toList)

section

variable {ρ : Type} (view : View ρ)

/-- A mismatch and the way to it. -/
abbrev Located := List PathStep × Mismatch

/-- The mismatches of a part, seen from the whole. -/
def within (step : PathStep) (found : List Located) : List Located :=
  found.map fun (path, m) => (step :: path, m)

/-- A value that has none of the types. -/
def wrongType (v : ρ) (types : List String) : List Located := [([], .type (view.quoted v) types)]

/-- Where a value differs from a shape, down to a depth. -/
def mismatches : (depth : Nat) → Shape → ρ → List Located
  | 0, _, _ => []
  | depth + 1, shape, v =>
    let ofForm (form : Form) (entries : List (Scalar × ρ)) : List Located :=
      (form.required.filter (!hasKey · entries)).map (fun key => ([], .missing key))
        ++ form.properties.flatMap fun (key, shape) =>
          match lookupKey key entries with
          | some part => within (.key (.text key)) (mismatches depth shape part)
          | none => []
    match shape, view.layer v with
    | .text, .scalar (.text _) => []
    | .text, _ => wrongType view v ["string"]
    | .textOrNumber, .scalar (.text _) => []
    | .textOrNumber, .scalar s => if s.isNumber then [] else wrongType view v ["string", "number"]
    | .textOrNumber, _ => wrongType view v ["string", "number"]
    | .kind, .scalar (.text s) =>
      if namesKind s then [] else [([], .unlike (view.quoted v) kindPattern)]
    | .kind, _ => wrongType view v ["string"]
    | .list item, .list items =>
      items.zipIdx.flatMap fun (part, i) => within (.index i) (mismatches depth item part)
    | .list _, _ => wrongType view v ["array"]
    | .form form, .map entries => ofForm form entries
    | .form _, _ => wrongType view v ["object"]
    | .formOrNull _, .scalar .null => []
    | .formOrNull form, .map entries => ofForm form entries
    | .formOrNull _, _ => wrongType view v ["object", "null"]
    | .texts, .map entries =>
      entries.flatMap fun (key, part) => within (.key key) (mismatches depth .text part)
    | .texts, _ => wrongType view v ["object"]

/-- Whether a mismatch is to be reported rather than another one: it is nearer to the root, or at a
later place of the same depth. -/
def isBetter (a b : Located) : Except Defect Bool :=
  if a.1.length ≠ b.1.length then .ok (a.1.length < b.1.length)
  else match pathAfter? a.1 b.1 with
    | some after => .ok after
    | none => .error .unorderedKeys

/-- The mismatch that is reported: the first one of the best. -/
def bestOf (best : Located) : List Located → Except Defect Located
  | [] => .ok best
  | m :: ms => do bestOf (if ← isBetter m best then m else best) ms

/-- The depth below which a document that passes the walk has no parts with a shape. -/
def shapeDepth (limit : Int) : Nat := 3 * limit.toNat + 8

/-- Checks the structure of a document. -/
def check (limit : Int) (source : String) (root : ρ) : Except Failure Unit :=
  match walk view limit root with
  | .error cause => .error (.configuration ⟨source, cause⟩)
  | .ok () =>
    match mismatches view (shapeDepth limit) (.form .document) root with
    | [] => .ok ()
    | m :: ms =>
      match bestOf m ms with
      | .error d => .error (.defect d)
      | .ok (path, mismatch) => .error (.configuration ⟨source, .mismatch path mismatch⟩)

end

end TemplateRules.Structure
