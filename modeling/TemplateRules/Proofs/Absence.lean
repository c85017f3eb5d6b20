import TemplateRules.Proofs.EditEffect
import TemplateRules.Proofs.HostTexts
import TemplateRules.Proofs.Validation

/-!
# Documents that find nothing

Templates change, and a document that was written for one of them may look in another for what is no longer
there. Then nothing happens: if none of the texts that an accepted document looks for occurs in a template,
and none of its patterns matches, the template is returned as it is, whatever the rules would have put there
and whatever their conditions are. Nothing is refused either. A chain that has been read lies within the
limit, a rule that has been read has a place or a target, and the replacement for a pattern is looked at only
where the pattern matches. Only what has no bytes is refused, before the work begins.

## Main definitions

* `RuleDocument.locators`, `RuleDocument.patterns`: the texts and the patterns that a document looks for
* `RuleDocument.AbsentFrom`: none of them is in a template
* `RuleDocument.WithoutEdges`: no rule inserts before or after everything

## Main results

* `RuleDocument.AbsentFrom.not_finds`: no edit of the document finds anything
* `RuleDocument.AbsentFrom.not_breaks`: no replacement breaks
* `Engine.outcome_apply_of_absentFrom`: the template is returned as it is
* `Engine.applyGiven_of_absentFrom`: so is a template that the host gives, if it and its context have bytes
-/

namespace TemplateRules

open Text

/-! ## What a document looks for -/

instance (anchor text : String) : Decidable (Occurs anchor text) := decidable_of_iff _ contains_iff

instance (source text : String) : Decidable (Pattern.FoundIn source text) :=
  match h : Pattern.compile source with
  | .ok p => decidable_of_iff (p.occursIn text.toList = true) (by
    simp [Pattern.FoundIn, h, Pattern.occursIn_iff])
  | .error _ => isFalse (by simp [Pattern.FoundIn, h])

/-- The candidates of a named point; there are none for a name that the table does not have. -/
def Locator.anchorsOf (point : Option String) : List String :=
  (point.bind fun name => points.lookup name).getD []

/-- The text that a literal replacement looks for. -/
def Replacement.literals (r : Replacement) : List String := if r.kind = .literal then [r.find] else []

/-- The pattern that a replacement of matches looks for. -/
def Replacement.patterns (r : Replacement) : List String := if r.kind = .pattern then [r.find] else []

/-- The texts that a smart replacement looks for: candidates, those of a named point, and variants. -/
def SmartReplacement.targets (r : SmartReplacement) : List String :=
  r.candidates.getD [] ++ Locator.anchorsOf r.point ++ (r.variants.map VariantPattern.variants).getD []

/-- The anchors of an insertion. -/
def Insertion.anchors (i : Insertion) : List String := i.after.toList ++ i.before.toList

/-- The anchors of a location. -/
def PatternLocation.anchors (l : PatternLocation) : List String := l.after.toList ++ l.before.toList

/-- The texts that a smart insertion looks for: the candidates of a named point, and the anchors of
locations. -/
def SmartInsertion.anchors (j : SmartInsertion) : List String :=
  Locator.anchorsOf j.point ++ (j.locations.getD []).flatMap PatternLocation.anchors

theorem Locator.mem_anchorsOf {point a : String} {candidates : List String}
    (h : points.lookup point = some candidates) (ha : a ∈ candidates) : a ∈ anchorsOf (some point) := by
  simpa [anchorsOf, h] using ha

theorem PatternLocation.mem_anchors {l : PatternLocation} {a : String} (h : l.Gives a) : a ∈ l.anchors := by
  rcases h with h | h <;> simp [anchors, h]

section Rules

variable {text : String} (partials : Table String)

theorem Replacement.not_finds_guarded {r : Replacement} (hliterals : ∀ s ∈ r.literals, ¬ Occurs s text)
    (hpatterns : ∀ s ∈ r.patterns, ¬ Pattern.FoundIn s text) :
    ¬ (r.guarded partials).edit.Finds text := by
  rw [guarded]
  cases hkind : r.kind with
  | literal => exact fun hfinds => hliterals r.find (by simp [literals, hkind]) hfinds.2
  | pattern => exact hpatterns r.find (by simp [patterns, hkind])

theorem SmartReplacement.not_finds_guarded {r : SmartReplacement}
    (htargets : ∀ s ∈ r.targets, ¬ Occurs s text) : ¬ (r.guarded partials).edit.Finds text := by
  have habsent : ∀ (candidates : List String), (∀ c ∈ candidates, c ∈ r.targets) →
      ¬ ∃ c ∈ candidates, c ≠ "" ∧ Occurs c text :=
    fun candidates hmem ⟨c, hc, _, hoccurs⟩ => htargets c (hmem c hc) hoccurs
  rw [guarded]
  cases hcandidates : r.candidates with
  | some candidates => exact habsent candidates fun c hc => by simp [targets, hcandidates, hc]
  | none =>
    cases hpoint : r.point with
    | some point =>
      rintro ⟨candidates, hlookup, c, hc, hoccurs⟩
      refine htargets c ?_ hoccurs
      simp [targets, hpoint, Locator.mem_anchorsOf hlookup hc]
    | none =>
      cases hvariants : r.variants with
      | some found => exact habsent found.variants fun c hc => by simp [targets, hvariants, hc]
      | none => exact id

theorem Insertion.not_finds_guarded {i : Insertion} (hedge : i.edge = none)
    (hanchors : ∀ s ∈ i.anchors, ¬ Occurs s text) : ¬ (i.guarded partials).edit.Finds text := by
  rw [guarded, hedge]
  cases hafter : i.after with
  | some anchor => exact hanchors anchor (by simp [anchors, hafter])
  | none =>
    cases hbefore : i.before with
    | some anchor => exact hanchors anchor (by simp [anchors, hbefore])
    | none => exact id

theorem SmartInsertion.not_finds_guarded {j : SmartInsertion}
    (hedge : j.point ≠ some Locator.startOfFile ∧ j.point ≠ some Locator.endOfFile)
    (hanchors : ∀ s ∈ j.anchors, ¬ Occurs s text) : ¬ (j.guarded partials).edit.Finds text := by
  rw [guarded]
  cases hpoint : j.point with
  | some point =>
    rw [hpoint] at hedge
    rintro (rfl | rfl | ⟨candidates, hlookup, c, hc, hoccurs⟩)
    · exact hedge.1 rfl
    · exact hedge.2 rfl
    · refine hanchors c ?_ hoccurs
      simp [anchors, hpoint, Locator.mem_anchorsOf hlookup hc]
  | none =>
    cases hlocations : j.locations with
    | some ls =>
      rintro ⟨l, hl, anchor, hgives, hoccurs⟩
      refine hanchors anchor ?_ hoccurs
      simp only [anchors, hlocations, Option.getD_some, List.mem_append, List.mem_flatMap]
      exact .inr ⟨l, hl, PatternLocation.mem_anchors hgives⟩
    | none => exact id

end Rules

namespace RuleDocument

/-- The texts that the rules of a document look for, at every level of their fallbacks. -/
def locators (d : RuleDocument) : List String :=
  d.replacements.flatMap (fun c => c.rules.flatMap Replacement.literals)
    ++ d.smartReplacements.flatMap SmartReplacement.targets
    ++ d.insertionRules.flatMap Insertion.anchors
    ++ d.smartInsertions.flatMap SmartInsertion.anchors

/-- The patterns that the rules of a document look for, at every level of their fallbacks. -/
def patterns (d : RuleDocument) : List String :=
  d.replacements.flatMap fun c => c.rules.flatMap Replacement.patterns

/-- Nothing that a document looks for is in a template. -/
def AbsentFrom (d : RuleDocument) (template : String) : Prop :=
  (∀ text ∈ d.locators, ¬ Occurs text template) ∧ ∀ source ∈ d.patterns, ¬ Pattern.FoundIn source template

/-- No insertion of a document is made at an edge, and no smart insertion at a point that is one. -/
def WithoutEdges (d : RuleDocument) : Prop :=
  (∀ i ∈ d.insertionRules, i.edge = none) ∧
    ∀ j ∈ d.smartInsertions, j.point ≠ some Locator.startOfFile ∧ j.point ≠ some Locator.endOfFile

instance (d : RuleDocument) (template : String) : Decidable (d.AbsentFrom template) :=
  inferInstanceAs (Decidable (_ ∧ _))

instance (d : RuleDocument) : Decidable d.WithoutEdges := inferInstanceAs (Decidable (_ ∧ _))

variable {d : RuleDocument} {template : String}

/-- No edit of a document finds anything in a template that it is absent from. -/
theorem AbsentFrom.not_finds (habsent : d.AbsentFrom template) (hedges : d.WithoutEdges)
    {chain : List GuardedEdit} (hchain : chain ∈ d.chains) {g : GuardedEdit} (hg : g ∈ chain) :
    ¬ g.edit.Finds template := by
  obtain ⟨hlocators, hpatterns⟩ := habsent
  simp only [locators, patterns, List.mem_append, List.mem_flatMap] at hlocators hpatterns
  rcases d.rule_of_mem_chains hchain hg with
    ⟨c, hc, r, hr, rfl⟩ | ⟨r, hr, rfl⟩ | ⟨i, hi, rfl⟩ | ⟨j, hj, rfl⟩
  · exact r.not_finds_guarded _ (fun s hs => hlocators s (.inl (.inl (.inl ⟨c, hc, r, hr, hs⟩))))
      fun s hs => hpatterns s ⟨c, hc, r, hr, hs⟩
  · exact r.not_finds_guarded _ fun s hs => hlocators s (.inl (.inl (.inr ⟨r, hr, hs⟩)))
  · exact i.not_finds_guarded _ (hedges.1 i hi) fun s hs => hlocators s (.inl (.inr ⟨i, hi, hs⟩))
  · exact j.not_finds_guarded _ (hedges.2 j hj) fun s hs => hlocators s (.inr ⟨j, hj, hs⟩)

/-- A pass comes to every replacement with the template as it was, and there no pattern matches. -/
theorem AbsentFrom.not_breaks (habsent : d.AbsentFrom template) (hedges : d.WithoutEdges) {p : Pass}
    (hpartials : p.partials = d.partials) : ¬ p.Breaks d template := by
  rintro ⟨-, before, c, after, text, r, hsplit, htext, hfind, hkind, pattern, -, hcompile, hoccurs, -⟩
  have hrun := Pass.foldlM_runChain_of_applyAll
    (fun _ c _ _ h => Pass.runChain_of_replacementStep (c := c) h) (Attempt.result?_eq_some.mpr htext)
  have hmem : ∀ c' ∈ before, c' ∈ d.replacements := fun c' hc' => by simp [hsplit, hc']
  obtain rfl : text = template := by
    refine Context.foldlM_runChain_of_not_finds (fun chain hchain g hg => ?_) hrun
    obtain ⟨c', hc', rfl⟩ := List.mem_map.mp hchain
    refine habsent.not_finds hedges ?_ hg
    simp only [chains, List.mem_append, List.mem_map]
    exact .inl (.inl (.inl ⟨c', hmem c' hc', by rw [hpartials]⟩))
  refine habsent.2 r.find ?_ ⟨pattern, hcompile, Pattern.occursIn_iff.mp hoccurs⟩
  simp only [patterns, List.mem_flatMap]
  exact ⟨c, by simp [hsplit], r, List.mem_of_find?_eq_some hfind, by simp [Replacement.patterns, hkind]⟩

end RuleDocument

/-! ## Applying a document -/

namespace Engine

/-- If a document that has been read inserts at no edge, and nothing that it looks for is in a template, then
applying it to the template returns the template, in every context of characters and under every name. -/
theorem outcome_apply_of_absentFrom {limit : Int} {source written : String} {d : RuleDocument}
    {template : String} (hlimit : 1 ≤ limit)
    (hparse : (RuleDocument.parse limit source written).outcome = .ok d) (hedges : d.WithoutEdges)
    (habsent : d.AbsentFrom template) (x : Context) (given : Option String) :
    ∃ kept, (apply limit .empty template (some d) x given).outcome = .ok (template, kept) := by
  rw [RuleDocument.outcome_parse] at hparse
  have hd := RuleDocument.wellFormed_of_ofText hlimit hparse
  obtain ⟨text, kept, hout⟩ := (apply_returns_iff_of_wellFormed (by omega) hd template x given).mpr
    (habsent.not_breaks hedges rfl)
  obtain rfl : text = template := by
    refine PrimitiveEdit.foldlM_run_of_not_finds (fun e he => ?_) (foldlM_due_of_apply hout)
    obtain ⟨chain, hchain, g, hg, rfl⟩ := Context.exists_mem_of_due he
    exact habsent.not_finds hedges hchain hg
  exact ⟨kept, hout⟩

/-- **A document that finds nothing does nothing, if there is no surrogate.** If a document that has been
read inserts at no edge, and nothing that it looks for is in a template, then applying it to the template
returns the template if no surrogate is in it or in any text of the context, whatever its conditions,
partials and replacements are and under every name. A surrogate anywhere is a defect. -/
theorem applyGiven_of_absentFrom {limit : Int} {source written : String} {d : RuleDocument}
    {template : HostText} (hlimit : 1 ≤ limit)
    (hparse : (RuleDocument.parse limit source written).outcome = .ok d) (hedges : d.WithoutEdges)
    (habsent : ∀ s, template = .ofString s → d.AbsentFrom s) (x : HostContext) (given : Option String) :
    ((∃ kept, (applyGiven limit .empty template (some d) x given).outcome = .ok (template, kept)) ↔
        template.HasBytes ∧ x.HasBytes) ∧
      (¬ (template.HasBytes ∧ x.HasBytes) →
        (applyGiven limit .empty template (some d) x given).outcome = .error (.defect .surrogates)) := by
  refine ⟨⟨fun ⟨kept, hout⟩ => ?_, fun ⟨htemplate, hx⟩ => ?_⟩, outcome_applyGiven_of_not_hasBytes⟩
  · by_contra hbytes
    rw [outcome_applyGiven_of_not_hasBytes hbytes] at hout
    simp at hout
  · obtain ⟨s, rfl⟩ := HostText.hasBytes_iff.mp htemplate
    obtain ⟨c, rfl⟩ := HostContext.hasBytes_iff.mp hx
    obtain ⟨kept, hout⟩ := outcome_apply_of_absentFrom hlimit hparse hedges (habsent s rfl) c given
    exact ⟨kept, by rw [outcome_applyGiven_ofString, hout]; rfl⟩

/-- A document with a pattern as a fallback and a named point. -/
def staleRules : String :=
  "replacements:\n- find: x\n  replace: y\n  fallback: \x7bfind: (x), replace: $1, type: regex\x7d\n" ++
    "smartInsertions:\n- semantic: after_package\n  content: y\n"

theorem exists_parse_staleRules : ∃ d, (RuleDocument.parse 8 "<string>" staleRules).outcome = .ok d ∧
    d.WithoutEdges ∧ d.AbsentFrom "ab" ∧ d.ruleCount = 2 := by
  obtain ⟨d, hd, hholds⟩ : ∃ d, (RuleDocument.parse 8 "<string>" staleRules).outcome = .ok d ∧
      decide (d.WithoutEdges ∧ d.AbsentFrom "ab" ∧ d.ruleCount = 2) = true :=
    RuleDocument.exists_parse_of_any (by decide +kernel)
  exact ⟨d, hd, of_decide_eq_true hholds⟩

theorem applyGiven_staleRules : ∃ d, (RuleDocument.parse 8 "<string>" staleRules).outcome = .ok d ∧
    d.WithoutEdges ∧ d.AbsentFrom "ab" ∧ d.ruleCount = 2 ∧
      (∃ kept, (applyGiven 8 .empty (.ofString "ab") (some d) (.ofContext (bareContext "ab")) none).outcome =
        .ok (.ofString "ab", kept)) ∧
      (applyGiven 8 .empty (.ofString "ab") (some d)
        (HostContext.withSurrogate (.ofContext (bareContext "ab"))) none).outcome =
          .error (.defect .surrogates) := by
  obtain ⟨d, hd, hedges, habsent, hcount⟩ := exists_parse_staleRules
  have habsent' : ∀ s, HostText.ofString "ab" = .ofString s → d.AbsentFrom s := by
    intro s hs
    rwa [← HostText.ofString_inj.mp hs]
  refine ⟨d, hd, hedges, habsent, hcount, ?_, ?_⟩
  · exact (applyGiven_of_absentFrom (by decide) hd hedges habsent' (.ofContext (bareContext "ab")) none).1.mpr
      (by simp)
  · refine (applyGiven_of_absentFrom (by decide) hd hedges habsent'
      (HostContext.withSurrogate (.ofContext (bareContext "ab"))) none).2 (mt And.right ?_)
    exact HostContext.not_hasBytes_withSurrogate _

/-- A variable makes a document fail that finds nothing and has no conditions. -/
theorem applyGiven_staleRules_ne_template : ∃ d,
    (RuleDocument.parse 8 "<string>" staleRules).outcome = .ok d ∧ d.WithoutEdges ∧ d.AbsentFrom "ab" ∧
      ¬ ∃ kept, (applyGiven 8 .empty (.ofString "ab") (some d)
        (HostContext.withSurrogate (.ofContext (bareContext "ab"))) none).outcome =
          .ok (.ofString "ab", kept) := by
  obtain ⟨d, hd, hedges, habsent, -⟩ := exists_parse_staleRules
  refine ⟨d, hd, hedges, habsent, ?_⟩
  rintro ⟨kept, hout⟩
  rw [outcome_applyGiven_of_not_hasBytes (mt And.right (HostContext.not_hasBytes_withSurrogate _))] at hout
  simp at hout

end Engine

end TemplateRules
