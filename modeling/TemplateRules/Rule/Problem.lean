import TemplateRules.Feature
import TemplateRules.Pattern.Replacement
import TemplateRules.Rule.Document
import TemplateRules.Version.Constraint

/-!
# Problems of rule documents

A document that has been bound may still say things that make no sense: an insertion without an
anchor, a pattern that cannot be read, a feature that nobody knows, content that must not be put into
a template. All such problems are found together, in the order of the document.

## Main definitions

* `RuleProblem`: a problem and where it is
* `ConditionSet.problems`, `RuleDocument.problems`: the problems of condition sets and documents
-/

namespace TemplateRules

open Text

/-! ## Problems -/

/-- What is wrong with a part of a document. -/
inductive RuleFault where
  | blankMetadata
  | unsafeContent (marker : String)
  | emptyList
  | blankItem
  | unknownFeatureItem (feature : String)
  | unknownFeature (feature : String)
  | malformedConstraint
  | blankClause
  | noAnchor
  | manyAnchors
  | unknownEdge (edge : String)
  | blankContent
  | blankFind
  | malformedPattern (find : String) (fault : Pattern.Malformed)
  | malformedReplacement (reason : String)
  | blankLabel
  | noVariants
  | blankVariant
  | noTarget
  | manyTargets
  | blankCandidate
  | blankPoint
  | noLocations
  | noLocationAnchor
  | manyLocationAnchors
  | noPlace
  | manyPlaces
  | unknownPoint (point : String)
  | blankPartialName
  | malformedPartialName
deriving DecidableEq

/-- A problem and the way to the part that has it. -/
structure RuleProblem where
  path : String
  fault : RuleFault
deriving DecidableEq

/-- Names in order, as messages list them. -/
def orderedNames (names : List String) : String := quotedList (names.mergeSort (· ≤ ·))

/-- The wording of a fault. -/
def RuleFault.message : RuleFault → String
  | .blankMetadata => "cannot be empty"
  | .unsafeContent marker => "potentially dangerous content detected: " ++ marker
  | .emptyList => "cannot be empty list"
  | .blankItem => "cannot be null or empty"
  | .unknownFeatureItem feature =>
    "unknown feature '" ++ feature ++ "'. Valid built-in features: "
      ++ orderedNames Feature.builtInNames ++ ", or use 'custom_' prefix"
  | .unknownFeature feature =>
    "unknown feature '" ++ feature ++ "'. Valid built-in features: "
      ++ orderedNames Feature.builtInNames ++ ", or use 'custom_' prefix for custom features"
  | .malformedConstraint =>
    "invalid version constraint format. "
      ++ "Use: >=1.2.3, >1.2.3, <=1.2.3, <1.2.3, ~>1.2.3, ^1.2.3, =1.2.3"
  | .blankClause => "cannot be empty string"
  | .noAnchor => "must specify one insertion point (after, before, or at)"
  | .manyAnchors => "can only specify one insertion point (after, before, or at)"
  | .unknownEdge edge => "must be 'start' or 'end', got: " ++ edge
  | .blankContent => "content is required and cannot be empty"
  | .blankFind => "find pattern is required and cannot be empty"
  | .malformedPattern find fault =>
    "invalid regex pattern '" ++ find ++ "': " ++ fault.message find.toList
  | .malformedReplacement reason => "invalid replacement: " ++ reason
  | .blankLabel => "type is required"
  | .noVariants => "at least one variant is required"
  | .blankVariant => "variant cannot be null or empty"
  | .noTarget => "must specify one find method (findAny, semantic, or findPattern)"
  | .manyTargets => "can only specify one find method (findAny, semantic, or findPattern)"
  | .blankCandidate => "pattern cannot be null or empty"
  | .blankPoint => "cannot be empty"
  | .noLocations => "at least one pattern is required"
  | .noLocationAnchor => "must specify either 'after' or 'before'"
  | .manyLocationAnchors => "can only specify either 'after' or 'before', not both"
  | .noPlace => "must specify one insertion method (findInsertionPoint or semantic)"
  | .manyPlaces => "can only specify one insertion method (findInsertionPoint or semantic)"
  | .unknownPoint point =>
    "unknown semantic insertion point '" ++ point ++ "'. Valid values: "
      ++ orderedNames Locator.pointNames
  | .blankPartialName => "partial name cannot be null or empty"
  | .malformedPartialName =>
    "partial name must start with a letter and contain only letters, numbers, and underscores"

/-- The text of a problem. -/
def RuleProblem.text (p : RuleProblem) : String :=
  p.path ++ (if p.fault = .blankMetadata then " " else ": ") ++ p.fault.message

/-! ## Parts of rules -/

/-- A problem at a path if a condition holds. -/
def problemIf (condition : Bool) (path : String) (fault : RuleFault) : List RuleProblem :=
  if condition then [⟨path, fault⟩] else []

/-- Whether a text is absent or blank. -/
def isBlankText (s : Option String) : Bool := (s.map isAllBlank).getD true

/-- The path of an item of a list. -/
def itemPath (path : String) (position : Nat) : String := path ++ s!"[{position}]"

/-- The problems of the items of a list, by their positions. -/
def itemProblems {α : Type} (problems : String → α → List RuleProblem) (path : String)
    (items : List α) : List RuleProblem :=
  items.zipIdx.flatMap fun (a, i) => problems (itemPath path i) a

/-- What content must not hold, without regard to case. -/
def unsafeMarkers : List String := ["<%", "%>", "$\x7bjava:", "Runtime.getRuntime", "ProcessBuilder",
  "System.exit", "<script", "javascript:", "file://", "exec("]

/-- Whether content holds a marker, without regard to case. -/
def holdsMarker (content marker : String) : Bool := contains (lower content) (lower marker)

/-- The markers that content must not hold and holds. -/
def unsafeProblems (path content : String) : List RuleProblem :=
  (unsafeMarkers.filter (holdsMarker content)).map fun marker => ⟨path, .unsafeContent marker⟩

/-- The problems of a list of texts that must not be empty or hold blanks. -/
def textListProblems (path : String) : Option (List String) → List RuleProblem
  | none => []
  | some [] => [⟨path, .emptyList⟩]
  | some xs => itemProblems (fun p x => problemIf (isAllBlank x) p .blankItem) path xs

/-- The problems of a list of features. -/
def featureListProblems (path : String) (features : Option (List String)) : List RuleProblem :=
  textListProblems path features
    ++ itemProblems (fun p f => problemIf (!isAllBlank f && !Feature.isKnown (strip f)) p
        (.unknownFeatureItem f)) path (features.getD [])

/-- The problem of a clause that must not be blank. -/
def clauseProblems (path : String) (clause : Option String) : List RuleProblem :=
  problemIf ((clause.map isAllBlank).getD false) path .blankClause

/-! ## Conditions -/

/-- The problems of plain clauses. -/
def Clauses.problems (path : String) (c : Clauses) : List RuleProblem :=
  problemIf ((c.generatorVersion.map fun v => (Constraint.ofText? v).isNone).getD false)
      (path ++ ".generatorVersion") .malformedConstraint
    ++ clauseProblems (path ++ ".templateContains") c.templateContains
    ++ clauseProblems (path ++ ".templateNotContains") c.templateNotContains
    ++ clauseProblems (path ++ ".projectProperty") c.projectProperty
    ++ clauseProblems (path ++ ".environmentVariable") c.environmentVariable
    ++ clauseProblems (path ++ ".buildType") c.buildType
    ++ textListProblems (path ++ ".templateContainsAll") c.templateContainsAll
    ++ textListProblems (path ++ ".templateContainsAny") c.templateContainsAny
    -- A blank name of a feature counts as unknown here, and as blank in a list.
    ++ (match c.hasFeature with
      | none => []
      | some f => problemIf (!Feature.isKnown (strip f)) (path ++ ".hasFeature") (.unknownFeature f))
    ++ featureListProblems (path ++ ".hasAllFeatures") c.hasAllFeatures
    ++ featureListProblems (path ++ ".hasAnyFeatures") c.hasAnyFeatures

namespace ConditionSet

mutual

/-- The problems of a condition set. -/
def problems (path : String) : ConditionSet → List RuleProblem
  | .mk clauses allOf anyOf negated =>
    clauses.problems path ++ listProblems (path ++ ".allOf") allOf
      ++ listProblems (path ++ ".anyOf") anyOf ++ optionProblems (path ++ ".not") negated

/-- The problems of a list of condition sets that may be absent. -/
def listProblems (path : String) : Option (List ConditionSet) → List RuleProblem
  | none => []
  | some cs => problemIf cs.isEmpty path .emptyList ++ itemsProblems path 0 cs

/-- The problems of condition sets from a position on. -/
def itemsProblems (path : String) (position : Nat) : List ConditionSet → List RuleProblem
  | [] => []
  | c :: cs => c.problems (itemPath path position) ++ itemsProblems path (position + 1) cs

/-- The problems of a condition set that may be absent. -/
def optionProblems (path : String) : Option ConditionSet → List RuleProblem
  | none => []
  | some c => c.problems path

end

end ConditionSet

/-! ## Rules -/

/-- A problem if none or several of some alternatives are given. -/
def countProblems (path : String) (count : Nat) (none several : RuleFault) : List RuleProblem :=
  problemIf (count == 0) path none ++ problemIf (1 < count) path several

/-- The path of the fallback of a rule. -/
def fallbackPath (path : String) : String := path ++ ".fallback"

namespace Insertion

/-- The problems of an insertion, apart from those of its fallback and unsafe content. -/
def problems (path : String) (i : Insertion) : List RuleProblem :=
  countProblems path ([i.after, i.before, i.edge].countP (!isBlankText ·)) .noAnchor .manyAnchors
    ++ (match i.edge with
      | none => []
      | some edge => problemIf (!(["start", "end"].contains (lower (strip edge)))) (path ++ ".at")
          (.unknownEdge edge))
    ++ problemIf (isAllBlank i.content) (path ++ ".content") .blankContent
    ++ ConditionSet.optionProblems (path ++ ".conditions") i.conditions

/-- The problems of insertions of which each one is the fallback of the one before. -/
def chainProblems (path : String) : List Insertion → List RuleProblem
  | [] => []
  | i :: fallbacks => i.problems path ++ chainProblems (fallbackPath path) fallbacks
      ++ unsafeProblems (path ++ ".content") i.content

end Insertion

namespace Replacement

/-- The problems of what a replacement looks for and, if that is a pattern, of what it puts there. -/
def targetProblems (path : String) (r : Replacement) : Except Defect (List RuleProblem) :=
  if isAllBlank r.find then .ok [⟨path ++ ".find", .blankFind⟩]
  else match r.kind with
    | .literal => .ok []
    | .pattern =>
      match Pattern.compile r.find with
      | .error (.malformed m) => .ok [⟨path ++ ".find", .malformedPattern r.find m⟩]
      | .error (.defect d) => .error d
      | .ok p =>
        match Pattern.replacementPieces (some digitLimit) p.groups p.names r.replacement.toList with
        | .ok _ => .ok []
        | .error (.defect d) => .error d
        | .error fault =>
          .ok [⟨path ++ ".replace", .malformedReplacement (fault.message p r.replacement)⟩]

/-- The problems of replacements of which each one is the fallback of the one before. -/
def chainProblems (path : String) : List Replacement → Except Defect (List RuleProblem)
  | [] => .ok []
  | r :: fallbacks => do
    let target ← r.targetProblems path
    let rest ← chainProblems (fallbackPath path) fallbacks
    return target ++ ConditionSet.optionProblems (path ++ ".conditions") r.conditions ++ rest
      ++ unsafeProblems (path ++ ".find") r.find ++ unsafeProblems (path ++ ".replace") r.replacement

end Replacement

/-- The problems of variants. -/
def VariantPattern.problems (path : String) (p : VariantPattern) : List RuleProblem :=
  problemIf (isAllBlank p.label) (path ++ ".type") .blankLabel
    ++ problemIf p.variants.isEmpty (path ++ ".variants") .noVariants
    ++ itemProblems (fun q v => problemIf (isAllBlank v) q .blankVariant) (path ++ ".variants") p.variants

/-- The problems of a smart replacement. -/
def SmartReplacement.problems (path : String) (r : SmartReplacement) : List RuleProblem :=
  countProblems path
      ([!(r.candidates.getD []).isEmpty, !isBlankText r.point, r.variants.isSome].countP id)
      .noTarget .manyTargets
    ++ problemIf (r.candidates = some []) (path ++ ".findAny") .emptyList
    ++ itemProblems (fun q c => problemIf (isAllBlank c) q .blankCandidate) (path ++ ".findAny")
      (r.candidates.getD [])
    ++ problemIf ((r.point.map isAllBlank).getD false) (path ++ ".semantic") .blankPoint
    ++ (r.variants.map (VariantPattern.problems (path ++ ".findPattern"))).getD []
    ++ ConditionSet.optionProblems (path ++ ".conditions") r.conditions
    ++ unsafeProblems (path ++ ".replace") r.replacement

/-- The problems of a location. -/
def PatternLocation.problems (path : String) (l : PatternLocation) : List RuleProblem :=
  countProblems path ([l.after, l.before].countP (!isBlankText ·)) .noLocationAnchor
    .manyLocationAnchors

/-- The problems of the locations of an insertion point. -/
def locationsProblems (path : String) (ls : List PatternLocation) : List RuleProblem :=
  problemIf ls.isEmpty (path ++ ".patterns") .noLocations
    ++ itemProblems PatternLocation.problems (path ++ ".patterns") ls

/-- The problems of a smart insertion. -/
def SmartInsertion.problems (path : String) (i : SmartInsertion) : List RuleProblem :=
  countProblems path ([!isBlankText i.point, i.locations.isSome].countP id) .noPlace .manyPlaces
    ++ (match i.point with
      | none => []
      | some point => problemIf (!isAllBlank point && !Locator.isKnown (strip point))
          (path ++ ".semantic") (.unknownPoint point))
    ++ (i.locations.map (locationsProblems (path ++ ".findInsertionPoint"))).getD []
    ++ problemIf (isAllBlank i.content) (path ++ ".content") .blankContent
    ++ ConditionSet.optionProblems (path ++ ".conditions") i.conditions
    ++ Insertion.chainProblems (fallbackPath path) i.fallbacks
    ++ unsafeProblems (path ++ ".content") i.content

/-! ## Documents -/

/-- The problems of metadata. -/
def RuleMetadata.problems (m : RuleMetadata) : List RuleProblem :=
  problemIf ((m.name.map isAllBlank).getD false) "metadata.name" .blankMetadata
    ++ problemIf ((m.version.map isAllBlank).getD false) "metadata.version" .blankMetadata

/-- Whether a text can be the name of a partial: a letter and then letters, digits and underscores, of
the seven-bit range. A line end after them is not seen. -/
def isPartialName (name : String) : Bool :=
  match name.toList with
  | [] => false
  | c :: cs => c.isAlpha &&
    match cs.dropWhile isPlainWord with
    | [] => true
    | ['\n'] => true
    | _ => false

/-- The problems of a partial. -/
def partialProblems (name body : String) : List RuleProblem :=
  if isAllBlank name then [⟨"partials", .blankPartialName⟩]
  else problemIf (!isPartialName name) ("partials." ++ name) .malformedPartialName
    ++ unsafeProblems ("partials." ++ name) body

namespace RuleDocument

/-- The problems of a document, unless a part of it has a defect. -/
def problems (d : RuleDocument) : Except Defect (List RuleProblem) := do
  let replacements ← d.replacements.zipIdx.mapM fun (c, i) =>
    Replacement.chainProblems (itemPath "replacements" i) c.rules
  return (d.metadata.map RuleMetadata.problems).getD []
    ++ ConditionSet.optionProblems "global" d.conditions
    ++ itemProblems (fun p c => Insertion.chainProblems p c.rules) "insertions" d.insertions
    ++ replacements.flatten
    ++ itemProblems SmartReplacement.problems "smartReplacements" d.smartReplacements
    ++ itemProblems SmartInsertion.problems "smartInsertions" d.smartInsertions
    ++ d.partials.flatMap fun (name, body) => partialProblems name body

end RuleDocument

end TemplateRules
