import TemplateRules.Defect
import TemplateRules.Trace

/-!
# Sources of templates

The content of a template may come from several categories of sources, which are ranked. A run asks for
categories, highest first, and works with those that are available; the base templates of the generator
always take part, as the last ones if they were not found before.

## Main definitions

* `Source`: the categories, with `Source.rank` and `Source.outranks`
* `Source.resolve`: the categories that a run works with
-/

namespace TemplateRules

/-- The categories of sources. -/
inductive Source where
  | userTemplates
  | userCustomizations
  | libraryTemplates
  | libraryCustomizations
  | pluginCustomizations
  | generator
deriving DecidableEq

namespace Source

/-! ## Ranks and names -/

/-- All categories, highest first. -/
def all : List Source := [.userTemplates, .userCustomizations, .libraryTemplates,
  .libraryCustomizations, .pluginCustomizations, .generator]

/-- The name of a category. -/
def name : Source → String
  | .userTemplates => "user-templates"
  | .userCustomizations => "user-customizations"
  | .libraryTemplates => "library-templates"
  | .libraryCustomizations => "library-customizations"
  | .pluginCustomizations => "plugin-customizations"
  | .generator => "openapi-generator"

/-- What a category holds. -/
def description : Source → String
  | .userTemplates => "Explicit template files in the user template directory"
  | .userCustomizations => "Rule documents in the user customizations directory"
  | .libraryTemplates => "Templates shipped by library artifacts"
  | .libraryCustomizations => "Rule documents shipped by library artifacts"
  | .pluginCustomizations => "Built-in rule documents provided by the host"
  | .generator => "Base generator templates (always available)"

/-- The category of a name. -/
def ofName? (name : String) : Option Source := all.find? fun s => s.name = name

/-- The category of a name that must be one. -/
def ofName (name : String) : Except Defect Source :=
  match ofName? name with
  | some s => .ok s
  | none => .error (.category name)

/-- The rank of a category; one is the highest. -/
def rank (s : Source) : Nat := all.idxOf s + 1

/-- Whether a category wins over another one. -/
def outranks (s t : Source) : Bool := s.rank < t.rank

/-- The names of all categories, highest first. -/
def defaultNames : List String := all.map name

/-! ## Resolution -/

/-- Whether a category can take part, and why. -/
structure Availability where
  available : Bool
  reason : String
deriving DecidableEq

/-- A category that can take part. -/
def Availability.yes (reason : String) : Availability := ⟨true, reason⟩

/-- A category that cannot take part. -/
def Availability.no (reason : String) : Availability := ⟨false, reason⟩

/-- Work with a state that leaves a trace. -/
abbrev Tracking (σ α : Type) := StateT σ Traced α

/-- Leaves a record about sources. -/
def note {σ : Type} (level : Level) (text : String) : Tracking σ Unit :=
  liftM (Traced.note level .sources text)

variable {σ : Type}

/-- The categories found so far with the one of a name, if it is new and available. -/
def consider (check : Source → Tracking σ Availability) (found : List Source) (requested : String) :
    Tracking σ (List Source) :=
  match ofName? requested with
  | none => do
    note .warning ("Unknown template source '" ++ requested ++ "': not available")
    return found
  | some s =>
    if found.contains s then pure found
    else do
      let a ← check s
      if a.available then
        note .debug ("Template source " ++ s.name ++ " available: " ++ a.reason)
        return found ++ [s]
      else
        note .info ("Template source " ++ s.name ++ " skipped: " ++ a.reason)
        return found

/-- The names that are requested; no names stand for all of them. -/
def requestedNames (requested : List String) : List String :=
  if requested.isEmpty then defaultNames else requested

/-- The categories with the base templates among them. -/
def withBase (found : List Source) : List Source :=
  if found.contains .generator then found else found ++ [.generator]

/-- The categories of requested names that are available, in the order of the request. -/
def resolve (requested : List String) (check : Source → Tracking σ Availability) :
    Tracking σ (List Source) := do
  let order := requestedNames requested
  let found ← order.foldlM (consider check) []
  if found.isEmpty then
    note .warning ("No template sources available from " ++ Text.quotedList order
      ++ "; base templates pass through unmodified")
  return withBase found

end Source

end TemplateRules
