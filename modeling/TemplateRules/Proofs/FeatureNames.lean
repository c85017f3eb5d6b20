import TemplateRules.Proofs.Characters
import TemplateRules.Proofs.MentionedNames
import TemplateRules.Proofs.WellFormed

/-!
# The features that conditions name

Validation knows a feature by its name without the blanks at the ends, and a template is searched for the
feature by the name as it is written. A name with blanks at its ends is accepted, then, but either nothing
shows the feature or what shows it is longer than what shows the feature that is meant.

## Main definitions

* `Clauses.Names`: the features that plain clauses name

## Main results

* `Clauses.isKnown_strip_of_names`: features of condition sets without problems are known when stripped
* `Feature.exists_missed_of_padded`: a padded name misses some template
* `ConditionSet.recognizes_iff`: the names that are recognized as they are accepted are those without blanks
  at their ends
-/

namespace TemplateRules

open Text

/-! ## Lengths -/

namespace Text

variable {after : List Char}

theorem length_lowerFrom (before cs : List Char) : (lowerFrom before cs).length = (letters cs).length := by
  rw [← map_plainSigma_lowerFrom before cs, List.length_map]

/-- A longer text has a longer lower case. -/
theorem length_lowerChars_lt_append (cs : List Char) (h : after ≠ []) :
    (lowerChars cs).length < (lowerChars (cs ++ after)).length := by
  obtain ⟨c, rest, rfl⟩ := List.exists_cons_of_ne_nil h
  have hletter : 0 < (letter c).length := by
    rw [letter, List.length_map]
    exact List.length_pos_of_ne_nil (lowerInContext_ne_nil _ _ _)
  rw [lowerChars, lowerChars, length_lowerFrom, length_lowerFrom, letters_append, List.length_append,
    letters, letters, List.flatMap_cons, List.length_append]
  omega

/-- A text without blanks that stands at the beginning does not reach into blanks at the end. -/
theorem prefix_of_prefix_append {p word : List Char} (hp : ∀ c ∈ p, isBlank c = false)
    (hafter : ∀ c ∈ after, isBlank c = true) (h : p <+: word ++ after) : p <+: word := by
  rcases List.prefix_or_prefix_of_prefix h (List.prefix_append word after) with hword | ⟨rest, rfl⟩
  · exact hword
  · have hrest : rest <+: after := (List.prefix_append_right_inj word).mp h
    cases rest with
    | nil => simp
    | cons c rest =>
      have hblank := hafter c (hrest.subset List.mem_cons_self)
      rw [hp c (by simp)] at hblank
      exact Bool.noConfusion hblank

end Text

namespace Feature

variable {after : List Char}

theorem length_capitalise_lt_append (cs : List Char) (h : after ≠ []) :
    (capitalise cs).length < (capitalise (cs ++ after)).length := by
  cases cs with
  | nil =>
    obtain ⟨c, rest, rfl⟩ := List.exists_cons_of_ne_nil h
    have := List.length_pos_of_ne_nil (upperChars_ne_nil c)
    simp only [capitalise, List.nil_append, List.length_nil, List.length_append]
    omega
  | cons c cs =>
    have := length_lowerChars_lt_append cs h
    simpa [capitalise] using this

theorem length_le_upperFirst (cs : List Char) : cs.length ≤ (upperFirst cs).length := by
  cases cs with
  | nil => exact Nat.le_refl 0
  | cons c cs =>
    have := List.length_pos_of_ne_nil (upperChars_ne_nil c)
    simp only [upperFirst, List.length_cons, List.length_append]
    omega

/-- Words that go on without an underscore are longer when joined. Only the last word grows, and it may be the
first one, which has no capital. -/
theorem length_camelCase_lt_append (cs : List Char) (hafter : ∀ c ∈ after, (c == '_') = false)
    (h : after ≠ []) : (camelCase cs).length < (camelCase (cs ++ after)).length := by
  obtain ⟨front, last, hcs, happend⟩ := exists_splitOn_append hafter cs
  rw [camelCase, camelCase, hcs, happend]
  cases front with
  | nil => simpa using length_lowerChars_lt_append last h
  | cons head rest =>
    have := length_capitalise_lt_append last h
    simp only [List.cons_append, List.flatMap_append, List.flatMap_singleton, List.length_append]
    omega

/-! ## Texts that show a feature -/

theorem isIn_iff {template name : String} :
    isIn template name = true ↔ ∃ probe ∈ probes name, Occurs probe template := by
  simp [isIn, contains_iff]

section Custom

variable {name probe : String}

/-- What stands behind the mark of a custom feature. -/
def base (name : String) : List Char := name.toList.drop customMark.toList.length

/-- The length of the shortest text that shows a custom feature, without the braces. -/
def shortest (name : String) : Nat := min (camelCase (base name)).length ((base name).length + 1)

theorem length_toList_tag (body : String) : (tag body).toList.length = body.toList.length + 4 := by
  have hopen : "\x7b\x7b".toList.length = 2 := rfl
  have hclose : "\x7d\x7d".toList.length = 2 := rfl
  rw [tag, String.toList_append, String.toList_append, List.length_append, List.length_append, hopen, hclose]
  omega

theorem shortest_le_of_mem_customProbes (h : probe ∈ customProbes name) :
    shortest name + 4 ≤ probe.toList.length := by
  rw [customProbes] at h
  rw [shortest, base]
  generalize name.toList.drop customMark.toList.length = word at h ⊢
  have hcapital := length_le_upperFirst (camelCase word)
  simp only [List.mem_cons, List.not_mem_nil, or_false] at h
  rcases h with rfl | rfl | rfl | rfl | rfl | rfl <;>
    simp [length_toList_tag] <;> omega

theorem exists_mem_customProbes_eq_shortest (name : String) :
    ∃ probe ∈ customProbes name, probe.toList.length = shortest name + 4 := by
  rw [shortest]
  rcases Nat.le_total (camelCase (base name)).length ((base name).length + 1) with h | h
  · refine ⟨tag (String.ofList (camelCase (base name))), by simp [customProbes, base], ?_⟩
    rw [length_toList_tag, String.toList_ofList, Nat.min_eq_left h]
  · refine ⟨tag (">" ++ String.ofList (base name)), by simp [customProbes, base], ?_⟩
    simp [length_toList_tag, Nat.min_eq_right h]

/-- Blanks behind the name of a custom feature make everything longer that shows it. -/
theorem shortest_lt_of_append {after : List Char} (hmark : customMark.toList <+: name.toList)
    {longer : String} (hsplit : longer.toList = name.toList ++ after) (hafter : ∀ c ∈ after, isBlank c = true)
    (hne : after ≠ []) : shortest name < shortest longer := by
  have hbase : base longer = base name ++ after := by
    rw [base, base, hsplit, List.drop_append_of_le_length hmark.length_le]
  have hplain : ∀ c ∈ after, (c == '_') = false := by
    refine fun c hc => beq_eq_false_iff_ne.mpr ?_
    rintro rfl
    exact absurd (hafter '_' hc) (by decide)
  have hcamel := length_camelCase_lt_append (base name) hplain hne
  have hlength := List.length_pos_of_ne_nil hne
  rw [shortest, shortest, hbase, List.length_append]
  omega

theorem probes_of_startsWith (h : startsWith name customMark = true) : probes name = customProbes name := by
  have hne : name ≠ "" := by
    rintro rfl
    exact absurd h (by decide)
  simp [probes, hne, h]

/-- A longer name for a custom feature misses the shortest text that shows the feature. -/
theorem exists_missed_of_shortest_lt {longer : String} (hname : startsWith name customMark = true)
    (hlonger : startsWith longer customMark = true) (hlt : shortest name < shortest longer) :
    ∃ template, isIn template name = true ∧ isIn template longer = false := by
  obtain ⟨probe, hprobe, hlength⟩ := exists_mem_customProbes_eq_shortest name
  refine ⟨probe, ?_, Bool.eq_false_iff.mpr fun hfound => ?_⟩
  · rw [isIn_iff, probes_of_startsWith hname]
    exact ⟨probe, hprobe, occurs_self probe⟩
  · rw [isIn_iff, probes_of_startsWith hlonger] at hfound
    obtain ⟨found, hfound, hoccurs⟩ := hfound
    have hle := (occurs_iff.mp hoccurs).length_le
    have := shortest_le_of_mem_customProbes hfound
    omega

end Custom

/-! ## Padded names -/

section Padded

variable {name : String}

theorem strip_of_mem_builtInNames (h : name ∈ builtInNames) : strip name = name := by
  have hall : ∀ name ∈ builtInNames, strip name = name := by decide +kernel
  exact hall name h

/-- There is a text that shows a feature that is known. -/
theorem exists_mem_probes_of_isKnown (h : isKnown name = true) : ∃ probe, probe ∈ probes name := by
  by_cases hcustom : startsWith name customMark = true
  · obtain ⟨probe, hprobe, -⟩ := exists_mem_customProbes_eq_shortest name
    exact ⟨probe, by rwa [probes_of_startsWith hcustom]⟩
  · have hall : ∀ name ∈ builtInNames, probes name ≠ [] := by decide
    rw [isKnown, Bool.or_eq_true, or_iff_left hcustom] at h
    exact List.exists_mem_of_ne_nil _ (hall name (List.contains_iff_mem.mp h))

/-- Nothing shows a name that is not known. -/
theorem probes_of_not_isKnown (h : isKnown name = false) : probes name = [] := by
  rw [isKnown, Bool.or_eq_false_iff] at h
  have hlookup : builtIn.lookup name = none := by
    have hnames : name ∉ builtInNames := by simpa using h.1
    refine List.lookup_eq_none_iff.mpr fun e he => ?_
    rw [bne_iff_ne]
    rintro rfl
    exact hnames (List.mem_map_of_mem he)
  simp [probes, h.2, hlookup]

/-- A custom name with blanks at its ends has them behind it, and without them it is still custom. -/
theorem exists_blanks_behind_of_startsWith (h : startsWith name customMark = true) :
    ∃ after, name.toList = (strip name).toList ++ after ∧ (∀ c ∈ after, isBlank c = true) ∧
      startsWith (strip name) customMark = true := by
  have hmark : ∀ c ∈ customMark.toList, isBlank c = false := by
    have hall : customMark.toList.all (!isBlank ·) = true := by decide
    simpa using hall
  obtain ⟨before, after, hsplit, hbefore, hafter, -, -⟩ := exists_blanks_around_stripChars name.toList
  rw [startsWith, List.isPrefixOf_iff_prefix, hsplit] at h
  cases before with
  | nil =>
    rw [List.nil_append] at h
    refine ⟨after, by simpa [strip] using hsplit, hafter, ?_⟩
    rw [startsWith, List.isPrefixOf_iff_prefix, strip, String.toList_ofList]
    exact prefix_of_prefix_append hmark hafter h
  | cons c before =>
    obtain rfl : 'c' = c := (List.cons_prefix_cons.mp h).1
    exact absurd (hbefore 'c' List.mem_cons_self) (by decide)

/-- **A padded name misses some template.** Where a name is known without the blanks at its ends and has such
blanks, a template shows what is meant and does not show what is written. -/
theorem exists_missed_of_padded (hknown : isKnown (strip name) = true) (hpadded : strip name ≠ name) :
    ∃ template, isIn template (strip name) = true ∧ isIn template name = false := by
  by_cases hcustom : startsWith name customMark = true
  · obtain ⟨after, hsplit, hafter, hstripped⟩ := exists_blanks_behind_of_startsWith hcustom
    have hne : after ≠ [] := by
      rintro rfl
      exact hpadded (String.toList_inj.mp (by simpa using hsplit.symm))
    exact exists_missed_of_shortest_lt hstripped hcustom
      (shortest_lt_of_append (List.isPrefixOf_iff_prefix.mp hstripped) hsplit hafter hne)
  · have hnot : isKnown name = false := by
      refine Bool.eq_false_iff.mpr fun h => hpadded ?_
      rw [isKnown, Bool.or_eq_true, or_iff_left hcustom] at h
      exact strip_of_mem_builtInNames (List.contains_iff_mem.mp h)
    obtain ⟨probe, hprobe⟩ := exists_mem_probes_of_isKnown hknown
    refine ⟨probe, isIn_iff.mpr ⟨probe, hprobe, occurs_self probe⟩, ?_⟩
    simp [isIn, probes_of_not_isKnown hnot]

end Padded

end Feature

/-! ## Features of conditions -/

/-- Plain clauses name a feature. -/
inductive Clauses.Names (c : Clauses) (name : String) : Prop
  | hasFeature (given : c.hasFeature = some name)
  | hasAllFeatures {names : List String} (given : c.hasAllFeatures = some names) (mem : name ∈ names)
  | hasAnyFeatures {names : List String} (given : c.hasAnyFeatures = some names) (mem : name ∈ names)

theorem problemIf_eq_nil_iff {condition : Bool} {path : String} {fault : RuleFault} :
    problemIf condition path fault = [] ↔ condition = false := by
  cases condition <;> simp [problemIf]

/-- Every feature of a list without problems is known when stripped. -/
theorem isKnown_strip_of_featureListProblems {path name : String} {names : List String}
    (h : featureListProblems path (some names) = []) (hname : name ∈ names) :
    Feature.isKnown (strip name) = true := by
  have hlist : textListProblems path (some names) =
      itemProblems (fun p x => problemIf (isAllBlank x) p .blankItem) path names := by
    cases names with
    | nil => simp at hname
    | cons first rest => rfl
  rw [featureListProblems, List.append_eq_nil_iff, hlist] at h
  obtain ⟨_, hblank⟩ := itemProblems_eq_nil h.1 name hname
  obtain ⟨_, hfeature⟩ := itemProblems_eq_nil h.2 name hname
  rw [problemIf_eq_nil_iff] at hblank hfeature
  simpa [hblank] using hfeature

/-- The features of clauses without problems are known when stripped. -/
theorem Clauses.isKnown_strip_of_names {path name : String} {c : Clauses} (h : c.problems path = [])
    (hname : c.Names name) : Feature.isKnown (strip name) = true := by
  simp only [Clauses.problems, List.append_eq_nil_iff] at h
  obtain ⟨⟨⟨-, hone⟩, hall⟩, hany⟩ := h
  cases hname with
  | hasFeature given =>
    rw [given] at hone
    simpa [problemIf_eq_nil_iff] using hone
  | hasAllFeatures given mem =>
    rw [given] at hall
    exact isKnown_strip_of_featureListProblems hall mem
  | hasAnyFeatures given mem =>
    rw [given] at hany
    exact isKnown_strip_of_featureListProblems hany mem

namespace ConditionSet

theorem problems_eq_nil_of_mem_itemsProblems {path : String} {position : Nat} {cs : List ConditionSet}
    (h : itemsProblems path position cs = []) {c : ConditionSet} (hc : c ∈ cs) : ∃ path, c.problems path = [] := by
  induction cs generalizing position with
  | nil => simp at hc
  | cons d cs ih =>
    rw [itemsProblems, List.append_eq_nil_iff] at h
    rcases List.mem_cons.mp hc with rfl | hc
    · exact ⟨_, h.1⟩
    · exact ih h.2 hc

theorem problems_eq_nil_of_listProblems {path : String} {cs : List ConditionSet}
    (h : listProblems path (some cs) = []) {c : ConditionSet} (hc : c ∈ cs) : ∃ path, c.problems path = [] := by
  rw [listProblems, List.append_eq_nil_iff] at h
  exact problems_eq_nil_of_mem_itemsProblems h.2 hc

/-- Clauses at any depth of a condition set without problems have none. -/
theorem Has.problems_eq_nil {c : ConditionSet} {k : Clauses} (hk : c.Has k) {path : String}
    (h : c.problems path = []) : ∃ path, k.problems path = [] := by
  induction hk generalizing path with
  | here =>
    simp only [problems, List.append_eq_nil_iff] at h
    exact ⟨path, h.1.1.1⟩
  | allOf mem inner ih =>
    simp only [problems, List.append_eq_nil_iff] at h
    obtain ⟨_, hinner⟩ := problems_eq_nil_of_listProblems h.1.1.2 mem
    exact ih hinner
  | anyOf mem inner ih =>
    simp only [problems, List.append_eq_nil_iff] at h
    obtain ⟨_, hinner⟩ := problems_eq_nil_of_listProblems h.1.2 mem
    exact ih hinner
  | negated inner ih =>
    simp only [problems, List.append_eq_nil_iff, optionProblems] at h
    exact ih h.2

end ConditionSet

/-- **The features that are recognized as they are accepted.** A feature that a condition set without problems
names, at any depth, is found in every template that shows the feature without the blanks at its ends, whatever
has been asked before, exactly if it has no blanks at its ends. -/
theorem ConditionSet.recognizes_iff {c : ConditionSet} {path : String} (hc : c.problems path = []) {k : Clauses}
    (hk : c.Has k) {name : String} (hname : k.Names name) :
    (∀ (x : Context) (asked : List Context.Question) (template : String), x.detector = .markers →
      x.template = some template → (∃ probe ∈ Feature.probes (strip name), Occurs probe template) →
        ((x.hasFeature name).run (x.remembered asked)).value.1 = true) ↔
      strip name = name := by
  constructor
  · intro h
    obtain ⟨_, hclauses⟩ := hk.problems_eq_nil hc
    by_contra hpadded
    obtain ⟨template, hshown, hmissed⟩ :=
      Feature.exists_missed_of_padded (Clauses.isKnown_strip_of_names hclauses hname) hpadded
    have hfound := h ⟨none, some template, [], [], .markers⟩ [] template rfl rfl (Feature.isIn_iff.mp hshown)
    exact Bool.noConfusion (hmissed.symm.trans hfound)
  · intro hstrip x asked template hdetector htemplate hshown
    rw [(Probing.decides_hasFeature x name).answer (x.faithful_remembered asked), Context.Exhibits, hdetector,
      htemplate]
    rwa [hstrip] at hshown

/-- Clauses that name one feature, or some of which a template is to have any. -/
def namingClauses (one : Option String) (any : Option (List String)) : Clauses :=
  ⟨none, none, none, none, none, one, none, any, none, none, none⟩

/-- A condition set that names features under `not`. -/
def unaudited : ConditionSet :=
  .mk (namingClauses none none) none none
    (some (.mk (namingClauses none (some ["validation_support", "custom_audit"])) none none none))

theorem recognizes_unaudited :
    unaudited.problems "conditions" = [] ∧
      unaudited.Has (namingClauses none (some ["validation_support", "custom_audit"])) ∧
      (namingClauses none (some ["validation_support", "custom_audit"])).Names "custom_audit" ∧
      ∀ (x : Context) (asked : List Context.Question) (template : String), x.detector = .markers →
        x.template = some template →
          (∃ probe ∈ Feature.probes (strip "custom_audit"), Occurs probe template) →
            ((x.hasFeature "custom_audit").run (x.remembered asked)).value.1 = true := by
  have hproblems : unaudited.problems "conditions" = [] := by decide +kernel
  have hhas : unaudited.Has (namingClauses none (some ["validation_support", "custom_audit"])) := .negated .here
  have hnames : (namingClauses none (some ["validation_support", "custom_audit"])).Names "custom_audit" :=
    .hasAnyFeatures rfl (by decide)
  exact ⟨hproblems, hhas, hnames, (ConditionSet.recognizes_iff hproblems hhas hnames).mpr (by decide)⟩

/-- A condition set that names a feature between blanks. -/
def paddedFeature : ConditionSet := .mk (namingClauses (some " validation_support ") none) none none none

/-- The condition set has no problems, and the feature is not found in a template that shows it. -/
theorem not_recognizes_paddedFeature :
    ¬ ∀ (c : ConditionSet) (path : String), c.problems path = [] → ∀ k, c.Has k → ∀ name, k.Names name →
      ∀ (x : Context) (asked : List Context.Question) (template : String), x.detector = .markers →
        x.template = some template → (∃ probe ∈ Feature.probes (strip name), Occurs probe template) →
          ((x.hasFeature name).run (x.remembered asked)).value.1 = true := by
  intro h
  have hfound := h paddedFeature "conditions" (by decide +kernel) _ .here " validation_support " (.hasFeature rfl)
    ⟨none, some "@Valid", [], [], .markers⟩ [] "@Valid" rfl rfl ⟨"@Valid", by decide +kernel, occurs_self _⟩
  exact absurd hfound (by decide +kernel)

end TemplateRules
