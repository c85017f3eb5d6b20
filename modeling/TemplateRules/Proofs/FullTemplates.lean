import TemplateRules.Proofs.PlainRun
import TemplateRules.Proofs.SourceNames

/-!
# Full templates cut off what is below

A full template takes the place of the text that it finds, so nothing of the base template is left above it.
What rule documents below it have done to the base may still be remembered: documents by their names and
results by their keys. But which documents are remembered does not depend on the texts they are applied to, and
a result that is kept is what would be computed anyway. So two runs from different bases come to the same text.

## Main definitions

* `Run.Offers`: a category has a full template for a name
* `Run.callsOfSourcesLazily`: the calls of categories, without a look at what the last one comes to

## Main results

* `Run.full_mem_contributed`: such a category contributes a full template
* `Run.content_eq_of_offers`: two bases of a template come to the same content
-/

namespace TemplateRules.Run

/-- A category has a full template of a name, in the libraries that a run works with or in a file that can be
read. -/
def Offers (r : Run) (libraries : List Library) (template : String) : Source → Prop
  | .libraryTemplates => ∃ l ∈ libraries, ∃ text,
      (l.templatesFor r.settings.generator).lookup template = some text
  | .userTemplates => ∃ path text, r.userTemplate? template = some path ∧ r.readSource path = .ok text
  | _ => False

variable {r : Run} {m m₁ m₂ : Memory} {s : Source} {template : String}

theorem Offers.exists_full {libraries : List Library} (h : r.Offers libraries template s) :
    ∃ text, Contribution.full text ∈ r.contributions libraries template s := by
  cases s with
  | libraryTemplates =>
    obtain ⟨l, hl, text, htext⟩ := h
    exact ⟨text, List.mem_filterMap.mpr ⟨l, hl, by rw [htext, Option.map_some]⟩⟩
  | userTemplates =>
    obtain ⟨path, text, hpath, hread⟩ := h
    refine ⟨text, ?_⟩
    simp [contributions, hpath, sourceText?, hread, Except.toOption]
  | _ => exact h.elim

/-- A category that has a full template contributes it to the template. -/
theorem full_mem_contributed {sources : Option (List Source)}
    (h : ∃ s ∈ r.order m sources, r.Offers (r.carriers m) template s) :
    ∃ text, Contribution.full text ∈ r.contributed m sources template := by
  obtain ⟨s, hs, hoffers⟩ := h
  obtain ⟨text, htext⟩ := hoffers.exists_full
  exact ⟨text, List.mem_flatMap.mpr ⟨s, List.mem_reverse.mpr hs, htext⟩⟩

/-! ## What texts leave behind -/

/-- What is remembered without results does not depend on the text. -/
theorem plainly_memory_eq (c : Contribution) (text text' : String) :
    (r.plainly template (text, m) c).2 = (r.plainly template (text', m) c).2 := by
  cases c <;> rfl

theorem foldl_plainly_memory_eq (cs : List Contribution) (text text' : String) :
    (cs.foldl (r.plainly template) (text, m)).2 = (cs.foldl (r.plainly template) (text', m)).2 := by
  induction cs generalizing text text' m with
  | nil => rfl
  | cons c cs ih =>
    rw [List.foldl_cons, List.foldl_cons]
    have hmemory : (r.plainly template (text, m) c).2 = (r.plainly template (text', m) c).2 :=
      plainly_memory_eq c text text'
    rcases hfirst : r.plainly template (text, m) c with ⟨next, n⟩
    rcases hsecond : r.plainly template (text', m) c with ⟨next', n'⟩
    obtain rfl : n = n' := by rwa [hfirst, hsecond] at hmemory
    exact ih next next'

/-- Contributions with a full template among them come to the same from every text. -/
theorem foldl_plainly_eq_of_full {cs : List Contribution} (h : ∃ text, Contribution.full text ∈ cs)
    (base base' : String) :
    cs.foldl (r.plainly template) (base, m) = cs.foldl (r.plainly template) (base', m) := by
  obtain ⟨text, hmem⟩ := h
  obtain ⟨below, above, rfl⟩ := List.append_of_mem hmem
  rw [List.foldl_append, List.foldl_append, List.foldl_cons, List.foldl_cons]
  have hfull : r.plainly template (below.foldl (r.plainly template) (base, m)) (.full text) =
      r.plainly template (below.foldl (r.plainly template) (base', m)) (.full text) := by
    rw [plainly, plainly, foldl_plainly_memory_eq below base base']
  rw [hfull]

/-! ## Two bases -/

/-- **A full template cuts off everything below it.** Where a category that a template passes through has a
full template of its name, and digests do not collide on what the documents of each run are applied to, two
runs from different bases and from the same memory come to the same content if both return. -/
theorem content_eq_of_offers {sources : Option (List Source)} {base base' : String} {c c' : Customized}
    (hoffers : ∃ s ∈ r.order m sources, r.Offers (r.carriers m) template s)
    (hsha : Engine.CollisionFree (r.applications m (.one sources template base)))
    (hsha' : Engine.CollisionFree (r.applications m (.one sources template base')))
    (h : Working.outcome (r.customize sources template base) m = (.ok c, m₁))
    (h' : Working.outcome (r.customize sources template base') m = (.ok c', m₂)) :
    c.content = c'.content := by
  rw [content_customize hsha h, content_customize hsha' h',
    foldl_plainly_eq_of_full (full_mem_contributed hoffers) base base']

/-! ## Calls without the last outcome -/

/-- The calls of contributions, without a look at what the last one comes to. -/
def callsOfContributionsLazily (r : Run) (template : String) :
    List Contribution → String → Memory → List Call
  | [], _, _ => []
  | [c], text, m => callOf template text m c
  | c :: c' :: cs, text, m =>
    callOf template text m c ++
      following (Working.outcome (r.applyContribution template c text) m)
        (r.callsOfContributionsLazily template (c' :: cs))

/-- The calls of categories, without a look at what the last one comes to. -/
def callsOfSourcesLazily (r : Run) (template : String) : List Source → String → Memory → List Call
  | [], _, _ => []
  | [s], text, m =>
    r.callsOfContributionsLazily template (r.contributions (r.carriers m) template s) text (r.memoryAfter m s)
  | s :: s' :: ss, text, m =>
    r.callsOfSource s template text m ++
      following (Working.outcome (r.applySource s template text) m)
        (r.callsOfSourcesLazily template (s' :: ss))

theorem following_nil {α : Type} (outcome : Except Failure α × Memory) :
    following outcome (fun _ _ => []) = [] := by
  rcases outcome with ⟨_ | _, _⟩ <;> rfl

theorem callsOfContributions_eq_lazily (cs : List Contribution) :
    r.callsOfContributions template cs = r.callsOfContributionsLazily template cs := by
  induction cs with
  | nil => rfl
  | cons c cs ih =>
    funext text m
    rw [callsOfContributions, ih]
    cases cs with
    | nil => exact (congrArg _ (following_nil _)).trans (List.append_nil _)
    | cons c' cs => rfl

theorem callsOfSources_eq_lazily (ss : List Source) :
    r.callsOfSources template ss = r.callsOfSourcesLazily template ss := by
  induction ss with
  | nil => rfl
  | cons s ss ih =>
    funext text m
    rw [callsOfSources, ih]
    cases ss with
    | nil =>
      rw [callsOfSourcesLazily, ← callsOfContributions_eq_lazily]
      exact (congrArg _ (following_nil _)).trans (List.append_nil _)
    | cons s' ss => rfl

/-! ## Documents below and above a template of a library -/

/-- The document that makes `b` of `a`. -/
def replacing : RuleDocument := ⟨none, none, [], [⟨⟨"a", "b", .literal, none⟩, []⟩], [], [], []⟩

/-- The replacement of a document that holds nothing else. -/
def onlyReplacement? : RuleDocument → Option (String × String)
  | ⟨none, none, [], [⟨⟨find, replacement, .literal, none⟩, []⟩], [], [], []⟩ => some (find, replacement)
  | _ => none

theorem eq_replacing {d : RuleDocument} (h : onlyReplacement? d = some ("a", "b")) : d = replacing := by
  unfold onlyReplacement? at h
  split at h
  · simp_all [replacing]
  · simp at h

/-- The fingerprint text of that document. -/
def replacingText : String :=
  "\x7b\"insertions\":[],\"partials\":\x7b\x7d,\"replacements\":[\x7b\"find\":\"a\",\"replace\":\"b\",\"type\":\"string\"\x7d],\"smartInsertions\":[],\"smartReplacements\":[]\x7d"

theorem fingerprintText_replacing : replacing.fingerprintText = replacingText := by
  have hdump : replacing.dump = .ofFields [("insertions", .list []),
      ("replacements",
        .list [.ofFields [("find", .text "a"), ("replace", .text "b"), ("type", .text "string")]]),
      ("smartReplacements", .list []), ("smartInsertions", .list []), ("partials", .map [])] := rfl
  have hcanonical : replacing.dump.canonical = replacingText.toList := by
    simp [hdump, replacingText, Value.ofFields, Value.canonical, Value.canonicalItems, Value.canonicalPairs,
      Value.canonicalEntries, Scalar.canonical, Scalar.plain, List.mergeSort,
      List.MergeSort.Internal.splitInTwo, Text.canonicalText, Text.canonicalChar, Text.commaSeparated,
      List.intercalate]
  rw [RuleDocument.fingerprintText, hcanonical, String.ofList_toList]

/-- A run whose library has a template, with a document built in below it and the same one of its user above. -/
def ofLibraryTemplate : Run :=
  { ofBarePrefix with
    settings := { ofBarePrefix.settings with documents := some ⟨"", ["rules"]⟩ }
    libraries := [⟨"lib", [("spring/t.mustache", "banana")], [], none⟩]
    builtIn := [("spring/t.mustache.yaml", replacingRules)]
    files := userFile replacingRules }

/-- The categories of the run that have something for its template. -/
def aroundTemplate : List Source := [.userCustomizations, .libraryTemplates, .pluginCustomizations]

/-- The calls of the run. -/
def callsAround (base : String) : List Call :=
  ofLibraryTemplate.callsOfSources "t.mustache" aroundTemplate.reverse base .empty

/-- The applications of the run. -/
def applicationsAround (base : String) : List Engine.Call :=
  ofLibraryTemplate.applications .empty (.one (some aroundTemplate) "t.mustache" base)

/-- The document is applied to the base of the template, and then to the template of the library. -/
theorem callsAround_eq : ∀ base ∈ ["a", "x"],
    (callsAround base).map (fun c => (c.source, c.template, c.text)) =
      [(.pluginCustomizations, "t.mustache", base), (.userCustomizations, "t.mustache", "banana")] := by
  simp only [callsAround, callsOfSources_eq_lazily]
  decide +kernel

theorem inForce_callsAround : ∀ base ∈ ["a", "x"], ∀ c ∈ callsAround base,
    (ofLibraryTemplate.inForce c.memory.documents c.name c.rules).toOption.bind onlyReplacement? =
      some ("a", "b") := by
  simp only [callsAround, callsOfSources_eq_lazily]
  decide +kernel

theorem applicationsAround_eq {base : String} (hbase : base ∈ ["a", "x"]) : applicationsAround base =
    [.apply (ofLibraryTemplate.application .pluginCustomizations "t.mustache" base replacing),
      .apply (ofLibraryTemplate.application .userCustomizations "t.mustache" "banana" replacing)] := by
  have hmap : applicationsAround base = (callsAround base).map fun c =>
      .apply (ofLibraryTemplate.application c.source c.template c.text replacing) := by
    rw [← List.filterMap_eq_map]
    refine List.filterMap_congr fun c hc => ?_
    obtain ⟨d, hd, honly⟩ := Option.bind_eq_some_iff.mp (inForce_callsAround base hbase c hc)
    rw [applicationOf, toOption_eq_some.mp hd, eq_replacing honly]
    rfl
  have hcalls := congrArg (List.map fun e : Source × String × String =>
    Engine.Call.apply (ofLibraryTemplate.application e.1 e.2.1 e.2.2 replacing)) (callsAround_eq base hbase)
  rw [List.map_map] at hcalls
  exact hmap.trans hcalls

/-- The properties that the document sees. -/
def propertiesText (s : Source) : String :=
  "debug=false\n" ++ ("generatorName=spring\n" ++ ("templateName=t.mustache\n" ++ ("templateSource=" ++ s.name)))

theorem mappingText_properties (s : Source) (text : String) :
    Digest.mappingText (ofLibraryTemplate.context s "t.mustache" text).properties = propertiesText s := by
  have hproperties : (ofLibraryTemplate.context s "t.mustache" text).properties =
      [("generatorName", "spring"), ("templateName", "t.mustache"), ("templateSource", s.name),
        ("debug", "false")] := rfl
  rw [hproperties]
  simp [Digest.mappingText, Text.joinWith, propertiesText, List.mergeSort, List.MergeSort.Internal.splitInTwo]

/-- The parts of the key of an application of the document. -/
def partsAround (s : Source) (text : String) : List Digest.Part := [
  ("template", some text),
  ("document", some replacingText),
  ("snapshot", some text),
  ("generatorVersion", none),
  ("properties", some (propertiesText s)),
  ("environment", some ""),
  ("featureDetector", some Detector.markers.name)]

/-- The parts of the keys of the run. -/
def keysAround (base : String) : List (List Digest.Part) :=
  [partsAround .pluginCustomizations base, partsAround .userCustomizations "banana"]

theorem keyParts_applicationsAround {base : String} (hbase : base ∈ ["a", "x"]) :
    Engine.keyParts (applicationsAround base) = keysAround base := by
  have hparts : ∀ s text, (ofLibraryTemplate.application s "t.mustache" text replacing).parts? =
      some (partsAround s text) := by
    intro s text
    have hcontext : (ofLibraryTemplate.application s "t.mustache" text replacing).parts? =
        some ((ofLibraryTemplate.context s "t.mustache" text).parts text replacing) := rfl
    have hempty : Digest.mappingText [] = "" := by simp [Digest.mappingText, Text.joinWith]
    rw [hcontext, Context.parts, mappingText_properties, fingerprintText_replacing,
      show (ofLibraryTemplate.context s "t.mustache" text).environment = [] from rfl, hempty]
    rfl
  rw [applicationsAround_eq hbase]
  simp only [Engine.keyParts, List.filterMap_cons, List.filterMap_nil, hparts, keysAround]

/-- What the parts of the run hold. -/
def textsAround (base : String) : List String :=
  [base, "banana", replacingText, propertiesText .pluginCustomizations, propertiesText .userCustomizations, "",
    Detector.markers.name]

theorem mem_textsAround : ∀ base ∈ ["a", "x"], ∀ ps ∈ keysAround base, ∀ p ∈ ps, ∀ t ∈ p.2,
    t ∈ textsAround base := by
  decide +kernel

theorem digests_around : ∀ base ∈ ["a", "x"],
    ((textsAround base).map fun t => Digest.digestOf (Digest.bytesOf t)).Nodup ∧
      ((keysAround base).map fun ps => Digest.digestOf (Digest.streamBytes ps)).Nodup := by
  decide +kernel

/-- The applications below and above the template have different keys. -/
theorem collisionFree_applicationsAround {base : String} (hbase : base ∈ ["a", "x"]) :
    Engine.CollisionFree (applicationsAround base) := by
  obtain ⟨htexts, hstreams⟩ := digests_around base hbase
  exact Engine.collisionFree_of_digests (keyParts_applicationsAround hbase) (mem_textsAround base hbase) htexts
    hstreams

/-- Both documents of the run can be read, so that it returns. -/
theorem returns_around (base : String) : ∃ c m,
    Working.outcome (ofLibraryTemplate.customize (some aroundTemplate) "t.mustache" base) .empty =
      (.ok c, m) := by
  have hreadable : ∀ e ∈ ofLibraryTemplate.documentsFor (ofLibraryTemplate.carriers .empty) "t.mustache"
      aroundTemplate.reverse,
      (RuleDocument.ofText ofLibraryTemplate.settings.limit e.1 e.2).toOption.isSome := by
    decide +kernel
  refine ⟨_, _, (settles_customizeBy aroundTemplate base).returns (not_stumbles_of_readable fun e he => ?_)⟩
  obtain ⟨d, hd⟩ := Option.isSome_iff_exists.mp (hreadable e he)
  exact ⟨d, toOption_eq_some.mp hd⟩

/-- The document below the library's template changes one of two bases, and the one above it changes that
template, so that both come to the same. -/
theorem content_ofLibraryTemplate_eq :
    (∃ s ∈ ofLibraryTemplate.order .empty (some aroundTemplate),
      ofLibraryTemplate.Offers (ofLibraryTemplate.carriers .empty) "t.mustache" s) ∧
    Engine.CollisionFree (applicationsAround "a") ∧ Engine.CollisionFree (applicationsAround "x") ∧
    ∃ c c' m₁ m₂,
      Working.outcome (ofLibraryTemplate.customize (some aroundTemplate) "t.mustache" "a") .empty =
        (.ok c, m₁) ∧
      Working.outcome (ofLibraryTemplate.customize (some aroundTemplate) "t.mustache" "x") .empty =
        (.ok c', m₂) ∧
      c.content = c'.content := by
  have hoffers : ∃ s ∈ ofLibraryTemplate.order .empty (some aroundTemplate),
      ofLibraryTemplate.Offers (ofLibraryTemplate.carriers .empty) "t.mustache" s := by
    refine ⟨.libraryTemplates, by decide +kernel, _, List.mem_singleton.mpr rfl, "banana", ?_⟩
    decide +kernel
  have hsha : Engine.CollisionFree (applicationsAround "a") := collisionFree_applicationsAround (by decide)
  have hsha' : Engine.CollisionFree (applicationsAround "x") := collisionFree_applicationsAround (by decide)
  obtain ⟨c, m₁, h⟩ := returns_around "a"
  obtain ⟨c', m₂, h'⟩ := returns_around "x"
  exact ⟨hoffers, hsha, hsha', c, c', m₁, m₂, h, h', content_eq_of_offers hoffers hsha hsha' h h'⟩

end TemplateRules.Run
