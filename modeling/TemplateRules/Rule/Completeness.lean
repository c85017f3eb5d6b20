import TemplateRules.Failure

/-!
# Completeness of bound documents

Binding must not drop rules: a bound document has as many rules of every category as the list that it
was bound from.
-/

namespace TemplateRules.RuleDocument

/-- The number of items of the list under a key, if there is a list. -/
def listedCount? {ρ : Type} (view : View ρ) (root : ρ) (key : String) : Option Nat :=
  match view.layer root with
  | .map entries =>
    match (lookupKey key entries).map view.layer with
    | some (.list items) => some items.length
    | _ => none
  | _ => none

/-- The first category of which a document has another number of rules than its value lists, with
both numbers. -/
def firstDropped? {ρ : Type} (view : View ρ) (root : ρ) (d : RuleDocument) :
    Option (String × Nat × Nat) :=
  d.categoryCounts.findSome? fun (category, actual) =>
    match listedCount? view root category with
    | some expected => if expected = actual then none else some (category, expected, actual)
    | none => none

/-- Refuses a document that has another number of rules than its value lists. -/
def checkCompleteness {ρ : Type} (view : View ρ) (root : ρ) (d : RuleDocument) (source : String) :
    Except Failure Unit :=
  match firstDropped? view root d with
  | none => .ok ()
  | some (category, expected, actual) =>
    .error (.configuration ⟨source, .incomplete category expected actual⟩)

end TemplateRules.RuleDocument
