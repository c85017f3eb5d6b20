import TemplateRules.Main
import TemplateRules.Run.Customization
import TemplateRules.Proofs.Binding
import TemplateRules.Proofs.Records
import TemplateRules.Proofs.Unfolding
import TemplateRules.Proofs.Completeness
import TemplateRules.Proofs.Reading
import TemplateRules.Proofs.EngineOutcome
import TemplateRules.Proofs.Contributions
import TemplateRules.Proofs.Isolation
import TemplateRules.Proofs.Calls
import TemplateRules.Proofs.ReadingOnce
import TemplateRules.Proofs.SourceNames
import TemplateRules.Proofs.Walk
import TemplateRules.Proofs.ChainLengths
import TemplateRules.Proofs.WellFormed
import TemplateRules.Proofs.PassOutcome
import TemplateRules.Proofs.Validation
import TemplateRules.Proofs.Agreement
import TemplateRules.Proofs.DigestParts
import TemplateRules.Proofs.DigestOnLists
import TemplateRules.Proofs.MapText
import TemplateRules.Proofs.Transparency
import TemplateRules.Proofs.Occurrences
import TemplateRules.Proofs.Segments
import TemplateRules.Proofs.ContentSafety
import TemplateRules.Proofs.Grammar
import TemplateRules.Proofs.Acceptance
import TemplateRules.Proofs.SameValue
import TemplateRules.Proofs.NormalForm
import TemplateRules.Proofs.ReadingBack
import TemplateRules.Proofs.Lossless
import TemplateRules.Proofs.Plan
import TemplateRules.Proofs.Placement
import TemplateRules.Proofs.Anchors
import TemplateRules.Proofs.ConditionRecords
import TemplateRules.Proofs.NamedPoints
import TemplateRules.Proofs.EntryOrder
import TemplateRules.Proofs.DocumentIdentity
import TemplateRules.Proofs.ConditionMeaning
import TemplateRules.Host
import TemplateRules.Proofs.HostTexts
import TemplateRules.Proofs.MentionedNames
import TemplateRules.Proofs.EditEffect
import TemplateRules.Proofs.Growth
import TemplateRules.Proofs.Absence
import TemplateRules.Proofs.Resolution
import TemplateRules.Proofs.Bookkeeping
import TemplateRules.Proofs.PlainRun
import TemplateRules.Proofs.FullTemplates
import TemplateRules.Proofs.Characters
import TemplateRules.Proofs.VersionOrder
import TemplateRules.Proofs.VersionSpelling
import TemplateRules.Proofs.Constraints
import TemplateRules.Proofs.Prerelease
import TemplateRules.Proofs.FeatureNames
import TemplateRules.Proofs.VersionIntervals
import TemplateRules.Proofs.PositiveConditions
import TemplateRules.Proofs.DefinedMarkers
import TemplateRules.Proofs.PartialNames
import TemplateRules.Proofs.PassFailures
import TemplateRules.Proofs.FailureNames
import TemplateRules.Proofs.FallbackLimit
import TemplateRules.Proofs.Nesting
import TemplateRules.Proofs.NestedCalls
import TemplateRules.Proofs.Cycles
import TemplateRules.Proofs.ExactValues
import TemplateRules.Proofs.LibraryLayout
import TemplateRules.Proofs.DefectOrigin
import TemplateRules.Proofs.Loading
import TemplateRules.Proofs.LowerCase
import TemplateRules.Proofs.VersionText
import TemplateRules.Proofs.ReplacementText
import TemplateRules.Proofs.GroupNumbers
import TemplateRules.Proofs.Rewriting
import TemplateRules.Proofs.Candidates
import TemplateRules.Proofs.FirstStored
