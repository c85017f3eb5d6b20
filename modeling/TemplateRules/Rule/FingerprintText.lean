import TemplateRules.Rule.Document
import TemplateRules.Value.CanonicalText

/-!
# Fingerprint texts

The text by which a rule document is identified: the canonical text of its value without what is
absent. The order of partials has no part in it.
-/

namespace TemplateRules.RuleDocument

/-- A document as a value, without what is absent. -/
def dump (d : RuleDocument) : Value := d.toValue.withoutNulls

/-- The text by which a document is identified. -/
def fingerprintText (d : RuleDocument) : String := String.ofList d.dump.canonical

end TemplateRules.RuleDocument
