import TemplateRules.Proofs.Outcome
import TemplateRules.Proofs.WorkingOutcome

/-!
# The run that passes over failures

A run is meant to pass over every rule document that cannot be read or applied, and to go on with the
text as it was before. The skipping run does that by definition: it has no failures at all, and a
contribution that fails leaves the text alone. It takes a template through the contributions of its
categories as the run does, and remembers the same documents, libraries and results.

## Main definitions

* `Run.contributions`: what a category contributes to a template, full templates and rule documents
* `Run.contribute`: one contribution, where one that fails changes nothing
* `Run.skipping`: the outcomes for all templates when every failure is passed over
* `Run.consulted`: the documents that a run reads, in order
-/

namespace TemplateRules

/-! ## Contributions -/

/-- What a category contributes to a template. -/
inductive Contribution where
  /-- A full template, which takes the place of the text. -/
  | full (text : String)
  /-- A rule document, by its name. -/
  | rules (source : Source) (name rules : String)

/-- The document of a contribution and its name. -/
def Contribution.document? : Contribution → Option (String × String)
  | .full _ => none
  | .rules _ name content => some (name, content)

namespace Run

/-- The libraries that the run works with, once it has found them out. -/
def carriers (r : Run) (m : Memory) : List Library :=
  m.compatible.getD (r.usableLibraries r.libraries).value

/-- The text of a source file, if it can be read. -/
def sourceText? (r : Run) (path : Path) : Option String := (r.readSource path).toOption

/-- What a category contributes to a template. Files that cannot be read contribute nothing. -/
def contributions (r : Run) (libraries : List Library) (template : String) :
    Source → List Contribution
  | .generator => []
  | .pluginCustomizations =>
    let keys := Library.documentEndings.map fun e => r.settings.generator ++ "/" ++ template ++ e
    ((keys.findSome? fun key => (r.builtIn.lookup key).map ((key, ·))).map fun (key, rules) =>
      .rules .pluginCustomizations (builtInName key) rules).toList
  | .libraryCustomizations => libraries.filterMap fun l =>
      (l.documentFor? r.settings.generator template).map
        (.rules .libraryCustomizations (l.name ++ ":" ++ template))
  | .libraryTemplates => libraries.filterMap fun l =>
      ((l.templatesFor r.settings.generator).lookup template).map .full
  | .userCustomizations => ((r.userDocument? template).bind fun path =>
      (r.sourceText? path).map (.rules .userCustomizations path.text)).toList
  | .userTemplates => (((r.userTemplate? template).bind r.sourceText?).map .full).toList

/-- Reading a document and applying it, with all failures. -/
def readAndApply (r : Run) (s : Source) (template text name rules : String) : Working String := do
  r.applyDocument (← r.document name rules) s template text

/-! ## The run without failures -/

/-- The text and the memory after a contribution. One that fails, in reading or at any rule, leaves the
text as it was. -/
def contribute (r : Run) (template : String) (before : String × Memory) :
    Contribution → String × Memory
  | .full text => (text, before.2)
  | .rules s name rules =>
    match Working.outcome (r.readAndApply s template before.1 name rules) before.2 with
    | (.ok text, m) => (text, m)
    | (.error _, m) => (before.1, m)

/-- The memory once a category has been looked at. -/
def memoryAfter (r : Run) (m : Memory) : Source → Memory
  | .libraryCustomizations => { m with compatible := some (r.carriers m) }
  | .libraryTemplates => { m with compatible := some (r.carriers m) }
  | _ => m

/-- The text and the memory after all contributions of a category. -/
def skippingSource (r : Run) (s : Source) (template : String) (before : String × Memory) :
    String × Memory :=
  (r.contributions (r.carriers before.2) template s).foldl (r.contribute template)
    (before.1, r.memoryAfter before.2 s)

/-- The text after several categories, those that changed it, and the memory. -/
def skippingSources (r : Run) (template : String) :
    List Source → String × Memory → (String × List Source) × Memory
  | [], before => ((before.1, []), before.2)
  | s :: ss, before =>
    let next := r.skippingSource s template before
    let last := r.skippingSources template ss next
    ((last.1.1, if next.1 = before.1 then last.1.2 else s :: last.1.2), last.2)

/-- The outcome for one template, by categories that are given highest first, and the memory. -/
def skippingOne (r : Run) (sources : List Source) (template base : String) (m : Memory) :
    Customized × Memory :=
  let last := r.skippingSources template sources.reverse (base, m)
  (⟨template, last.1.1, Digest.sha256 base, last.1.2⟩, last.2)

/-- The outcomes for templates, each from its own base, and the memory. -/
def skippingEach (r : Run) (sources : List Source) :
    Table String → Memory → List Customized × Memory
  | [], m => ([], m)
  | (template, base) :: rest, m =>
    let one := r.skippingOne sources template base m
    let more := r.skippingEach sources rest one.2
    (one.1 :: more.1, more.2)

/-- The outcomes for all templates of a run that passes over every failure, and the memory. -/
def skipping (r : Run) (bases : Table String) (m : Memory) : List Customized × Memory :=
  let resolved := Recalling.outcome (r.resolve none) m
  r.skippingEach resolved.1 bases resolved.2

/-! ## The documents of a run -/

/-- The documents of categories for a template, in the order in which they are read. -/
def documentsFor (r : Run) (libraries : List Library) (template : String) (sources : List Source) :
    List (String × String) :=
  sources.flatMap fun s => (r.contributions libraries template s).filterMap Contribution.document?

/-- The documents that a run reads, by their names, in order. -/
def consulted (r : Run) (bases : Table String) (m : Memory) : List (String × String) :=
  let sources := (Recalling.outcome (r.resolve none) m).1
  bases.flatMap fun (template, _) => r.documentsFor (r.carriers m) template sources.reverse

end Run

end TemplateRules
