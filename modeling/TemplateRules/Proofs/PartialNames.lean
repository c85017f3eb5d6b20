import TemplateRules.Proofs.DefinedMarkers
import TemplateRules.Proofs.Outcome

/-!
# Names of partials

A partial is to have a name that a marker can hold: a letter and then letters, digits and underscores. Validation
reads such a name from the front and does not see a line end behind it. A name with a line end is accepted, but no
marker refers to it, because the name in a marker is taken without the blanks around it: what the marker stands for
is the partial without the line end, if there is one.

That a name is accepted is said of the problems of the whole document, so it has to be known that no other part of
a document has a problem that could be taken for one with a name.

## Main definitions

* `RuleProblem.Misnames`: a problem says that a partial has no good name
* `Nameless`: problems of which none is about the name of a partial
* `Partials.marked`: the marker of a name without blanks

## Main results

* `RuleDocument.exists_misnames_iff`: a document has a problem with a name if the partial has
* `RuleDocument.accepts_name_iff`: the names that are accepted, and what their markers stand for
-/

namespace TemplateRules

open Text

/-! ## Problems with names -/

/-- A fault that only the name of a partial has. -/
def RuleFault.ofName : RuleFault → Bool
  | .blankPartialName => true
  | .malformedPartialName => true
  | _ => false

/-- A problem says that a partial has no good name: the name is blank, or it is no name. -/
def RuleProblem.Misnames (p : RuleProblem) (name : String) : Prop :=
  (isAllBlank name = true ∧ p = ⟨"partials", .blankPartialName⟩) ∨
    p = ⟨"partials." ++ name, .malformedPartialName⟩

theorem RuleProblem.Misnames.ofName {p : RuleProblem} {name : String} (h : p.Misnames name) :
    p.fault.ofName = true := by
  rcases h with ⟨-, rfl⟩ | rfl <;> rfl

/-- Problems of which none is about the name of a partial. -/
def Nameless (ps : List RuleProblem) : Prop := ∀ p ∈ ps, p.fault.ofName = false

@[simp] theorem nameless_nil : Nameless [] := by simp [Nameless]

@[simp] theorem nameless_append {ps qs : List RuleProblem} :
    Nameless (ps ++ qs) ↔ Nameless ps ∧ Nameless qs := by
  simp [Nameless, or_imp, forall_and]

@[simp] theorem nameless_cons {p : RuleProblem} {ps : List RuleProblem} :
    Nameless (p :: ps) ↔ p.fault.ofName = false ∧ Nameless ps := by
  simp [Nameless]

theorem nameless_problemIf (condition : Bool) (path : String) {fault : RuleFault} (h : fault.ofName = false) :
    Nameless (problemIf condition path fault) := by
  cases condition <;> simp [problemIf, h]

theorem nameless_itemProblems {α : Type} {problems : String → α → List RuleProblem}
    (h : ∀ path a, Nameless (problems path a)) (path : String) (items : List α) :
    Nameless (itemProblems problems path items) := by
  intro p hp
  obtain ⟨e, -, hp⟩ := List.mem_flatMap.mp hp
  exact h _ _ p hp

theorem nameless_getD_map {α : Type} {problems : α → List RuleProblem} (h : ∀ a, Nameless (problems a))
    (part : Option α) : Nameless ((part.map problems).getD []) := by
  cases part with
  | none => exact nameless_nil
  | some a => exact h a

theorem nameless_unsafeProblems (path content : String) : Nameless (unsafeProblems path content) := by
  intro p hp
  obtain ⟨marker, -, rfl⟩ := List.mem_map.mp hp
  rfl

theorem nameless_countProblems (path : String) (count : Nat) {none several : RuleFault}
    (hnone : none.ofName = false) (hseveral : several.ofName = false) :
    Nameless (countProblems path count none several) :=
  nameless_append.mpr ⟨nameless_problemIf _ _ hnone, nameless_problemIf _ _ hseveral⟩

/-! ## Conditions -/

theorem nameless_textListProblems (path : String) (texts : Option (List String)) :
    Nameless (textListProblems path texts) := by
  rcases texts with _ | _ | ⟨x, xs⟩
  · exact nameless_nil
  · simp [textListProblems, RuleFault.ofName]
  · exact nameless_itemProblems (fun p x => nameless_problemIf (isAllBlank x) p rfl) path _

theorem nameless_featureListProblems (path : String) (features : Option (List String)) :
    Nameless (featureListProblems path features) :=
  nameless_append.mpr ⟨nameless_textListProblems path features,
    nameless_itemProblems (fun _ _ => nameless_problemIf _ _ rfl) path _⟩

theorem Clauses.nameless_problems (path : String) (c : Clauses) : Nameless (c.problems path) := by
  simp only [Clauses.problems, clauseProblems, nameless_append]
  refine ⟨⟨⟨⟨⟨⟨⟨⟨⟨⟨?_, ?_⟩, ?_⟩, ?_⟩, ?_⟩, ?_⟩, ?_⟩, ?_⟩, ?feature⟩, ?_⟩, ?_⟩
  case feature =>
    cases c.hasFeature with
    | none => exact nameless_nil
    | some f => exact nameless_problemIf _ _ rfl
  all_goals first
    | exact nameless_problemIf _ _ rfl
    | exact nameless_textListProblems _ _
    | exact nameless_featureListProblems _ _

namespace ConditionSet

mutual

theorem nameless_problems (path : String) : ∀ c : ConditionSet, Nameless (c.problems path)
  | .mk clauses allOf anyOf negated => by
    rw [problems, nameless_append, nameless_append, nameless_append]
    exact ⟨⟨⟨clauses.nameless_problems path, nameless_listProblems _ allOf⟩, nameless_listProblems _ anyOf⟩,
      nameless_optionProblems _ negated⟩

theorem nameless_listProblems (path : String) : ∀ cs, Nameless (listProblems path cs)
  | none => nameless_nil
  | some cs => by
    rw [listProblems, nameless_append]
    exact ⟨nameless_problemIf _ _ rfl, nameless_itemsProblems path 0 cs⟩

theorem nameless_itemsProblems (path : String) (position : Nat) :
    ∀ cs, Nameless (itemsProblems path position cs)
  | [] => nameless_nil
  | c :: cs => by
    rw [itemsProblems, nameless_append]
    exact ⟨nameless_problems _ c, nameless_itemsProblems path (position + 1) cs⟩

theorem nameless_optionProblems (path : String) : ∀ c, Nameless (optionProblems path c)
  | none => nameless_nil
  | some c => by
    rw [optionProblems]
    exact nameless_problems path c

end

end ConditionSet

/-! ## Rules -/

theorem Insertion.nameless_problems (path : String) (i : Insertion) : Nameless (i.problems path) := by
  simp only [Insertion.problems, nameless_append]
  refine ⟨⟨⟨nameless_countProblems _ _ rfl rfl, ?edge⟩, nameless_problemIf _ _ rfl⟩,
    ConditionSet.nameless_optionProblems _ _⟩
  cases i.edge with
  | none => exact nameless_nil
  | some edge => exact nameless_problemIf _ _ rfl

theorem Insertion.nameless_chainProblems (path : String) (rules : List Insertion) :
    Nameless (chainProblems path rules) := by
  induction rules generalizing path with
  | nil => exact nameless_nil
  | cons i rules ih =>
    simp only [chainProblems, nameless_append]
    exact ⟨⟨i.nameless_problems path, ih _⟩, nameless_unsafeProblems _ _⟩

theorem Replacement.nameless_targetProblems {path : String} {r : Replacement} {ps : List RuleProblem}
    (h : r.targetProblems path = .ok ps) : Nameless ps := by
  rw [targetProblems] at h
  split at h
  · obtain rfl := Except.ok.inj h
    simp [RuleFault.ofName]
  · split at h
    · obtain rfl := Except.ok.inj h
      exact nameless_nil
    · split at h
      · obtain rfl := Except.ok.inj h
        simp [RuleFault.ofName]
      · simp at h
      · split at h
        · obtain rfl := Except.ok.inj h
          exact nameless_nil
        · simp at h
        · obtain rfl := Except.ok.inj h
          simp [RuleFault.ofName]

theorem Replacement.nameless_chainProblems {path : String} {rules : List Replacement} {ps : List RuleProblem}
    (h : chainProblems path rules = .ok ps) : Nameless ps := by
  induction rules generalizing path ps with
  | nil =>
    obtain rfl := Except.ok.inj h
    exact nameless_nil
  | cons r rules ih =>
    rw [chainProblems] at h
    obtain ⟨target, htarget, h⟩ := bind_eq_ok.mp h
    obtain ⟨rest, hrest, h⟩ := bind_eq_ok.mp h
    obtain rfl := Except.ok.inj h
    simp only [nameless_append]
    exact ⟨⟨⟨⟨nameless_targetProblems htarget, ConditionSet.nameless_optionProblems _ _⟩, ih hrest⟩,
      nameless_unsafeProblems _ _⟩, nameless_unsafeProblems _ _⟩

theorem VariantPattern.nameless_problems (path : String) (v : VariantPattern) : Nameless (v.problems path) := by
  simp only [VariantPattern.problems, nameless_append]
  exact ⟨⟨nameless_problemIf _ _ rfl, nameless_problemIf _ _ rfl⟩,
    nameless_itemProblems (fun _ _ => nameless_problemIf _ _ rfl) _ _⟩

theorem SmartReplacement.nameless_problems (path : String) (r : SmartReplacement) :
    Nameless (r.problems path) := by
  simp only [SmartReplacement.problems, nameless_append]
  exact ⟨⟨⟨⟨⟨⟨nameless_countProblems _ _ rfl rfl, nameless_problemIf _ _ rfl⟩,
    nameless_itemProblems (fun _ _ => nameless_problemIf _ _ rfl) _ _⟩, nameless_problemIf _ _ rfl⟩,
    nameless_getD_map (VariantPattern.nameless_problems _) _⟩, ConditionSet.nameless_optionProblems _ _⟩,
    nameless_unsafeProblems _ _⟩

theorem nameless_locationsProblems (path : String) (ls : List PatternLocation) :
    Nameless (locationsProblems path ls) :=
  nameless_append.mpr ⟨nameless_problemIf _ _ rfl,
    nameless_itemProblems (fun _ _ => nameless_countProblems _ _ rfl rfl) _ _⟩

theorem SmartInsertion.nameless_problems (path : String) (i : SmartInsertion) : Nameless (i.problems path) := by
  simp only [SmartInsertion.problems, nameless_append]
  refine ⟨⟨⟨⟨⟨⟨nameless_countProblems _ _ rfl rfl, ?point⟩,
    nameless_getD_map (nameless_locationsProblems _) _⟩, nameless_problemIf _ _ rfl⟩,
    ConditionSet.nameless_optionProblems _ _⟩, Insertion.nameless_chainProblems _ _⟩,
    nameless_unsafeProblems _ _⟩
  cases i.point with
  | none => exact nameless_nil
  | some point => exact nameless_problemIf _ _ rfl

theorem RuleMetadata.nameless_problems (m : RuleMetadata) : Nameless m.problems :=
  nameless_append.mpr ⟨nameless_problemIf _ _ rfl, nameless_problemIf _ _ rfl⟩

/-! ## Documents -/

/-- Of the problems of a document those with the names of partials are found at its partials. -/
theorem RuleDocument.mem_problems_ofName {d : RuleDocument} {ps : List RuleProblem} (h : d.problems = .ok ps)
    {p : RuleProblem} (hp : p.fault.ofName = true) :
    p ∈ ps ↔ ∃ e ∈ d.partials, p ∈ partialProblems e.1 e.2 := by
  obtain ⟨replacements, hreplacements, h⟩ := bind_eq_ok.mp h
  obtain rfl := Except.ok.inj h
  have hflat : Nameless replacements.flatten := by
    intro q hq
    obtain ⟨rs, hrs, hq⟩ := List.mem_flatten.mp hq
    obtain ⟨e, -, he⟩ := exists_of_mem_of_mapM_eq_ok hreplacements hrs
    exact Replacement.nameless_chainProblems he q hq
  have hothers : Nameless ((d.metadata.map RuleMetadata.problems).getD []
      ++ ConditionSet.optionProblems "global" d.conditions
      ++ itemProblems (fun p c => Insertion.chainProblems p c.rules) "insertions" d.insertions
      ++ replacements.flatten
      ++ itemProblems SmartReplacement.problems "smartReplacements" d.smartReplacements
      ++ itemProblems SmartInsertion.problems "smartInsertions" d.smartInsertions) := by
    simp only [nameless_append]
    exact ⟨⟨⟨⟨⟨nameless_getD_map RuleMetadata.nameless_problems _, ConditionSet.nameless_optionProblems _ _⟩,
      nameless_itemProblems (fun _ _ => Insertion.nameless_chainProblems _ _) _ _⟩, hflat⟩,
      nameless_itemProblems SmartReplacement.nameless_problems _ _⟩,
      nameless_itemProblems SmartInsertion.nameless_problems _ _⟩
  rw [List.mem_append, List.mem_flatMap]
  refine or_iff_right fun hmem => ?_
  exact Bool.noConfusion ((hothers p hmem).symm.trans hp)

/-! ## Names -/

namespace Partials

/-- A name that is accepted is a letter and then letters, digits and underscores, perhaps with a line end. -/
theorem isPartialName_iff {name : String} :
    isPartialName name = true ↔ IsName name ∨ ∃ short, IsName short ∧ name = short ++ "\n" := by
  have hline : isPlainWord '\n' = false := rfl
  constructor
  · intro h
    rw [isPartialName] at h
    split at h
    · simp at h
    · rename_i c cs hname
      rw [Bool.and_eq_true] at h
      have hsplit := List.takeWhile_append_dropWhile (p := isPlainWord) (l := cs)
      have hword : ∀ d ∈ cs.takeWhile isPlainWord, isPlainWord d = true := fun d => List.mem_takeWhile_imp
      split at h
      · rename_i hrest
        rw [hrest, List.append_nil] at hsplit
        exact .inl ⟨c, cs, hname, h.1, hsplit ▸ hword⟩
      · rename_i hrest
        rw [hrest] at hsplit
        refine .inr ⟨String.ofList (c :: cs.takeWhile isPlainWord), ⟨c, _, by simp, h.1, hword⟩, ?_⟩
        rw [← String.toList_inj, String.toList_append, String.toList_ofList, hname]
        exact congrArg (c :: ·) hsplit.symm
      · simp at h
  · rintro (⟨c, cs, hname, hletter, hrest⟩ | ⟨short, ⟨c, cs, hshort, hletter, hrest⟩, rfl⟩)
    · have hdrop : cs.dropWhile isPlainWord = [] := List.dropWhile_eq_nil_iff.mpr hrest
      simp [isPartialName, hname, hletter, hdrop]
    · have hdrop : (cs ++ ['\n']).dropWhile isPlainWord = ['\n'] := by
        rw [List.dropWhile_append_of_pos hrest]
        simp [hline]
      simp [isPartialName, hshort, hletter, hdrop]

theorem not_isAllBlank_of_isPartialName {name : String} (h : isPartialName name = true) :
    isAllBlank name = false := by
  rw [isPartialName] at h
  split at h
  · simp at h
  · rename_i c cs hname
    rw [Bool.and_eq_true] at h
    have hblank : isBlank c = false := isBlank_of_isPlainWord (by simp [isPlainWord, Char.isAlphanum, h.1])
    simp [isAllBlank, hname, hblank]

/-- A partial whose name is not accepted has a problem with it. -/
theorem exists_misnames_partialProblems {name : String} (h : isPartialName name = false) (body : String) :
    ∃ p ∈ partialProblems name body, p.Misnames name := by
  rw [partialProblems]
  cases hblank : isAllBlank name with
  | true => exact ⟨_, List.mem_singleton_self _, .inl ⟨hblank, rfl⟩⟩
  | false =>
    rw [if_neg Bool.false_ne_true, h]
    exact ⟨_, List.mem_append_left _ List.mem_cons_self, .inr rfl⟩

/-- A partial has a problem with a name only if it is not accepted. The problem with a name that is not blank
shows which name it is. -/
theorem isPartialName_of_misnames {name other body : String} {p : RuleProblem}
    (hp : p ∈ partialProblems other body) (h : p.Misnames name) : isPartialName name = false := by
  rcases h with ⟨hblank, -⟩ | rfl
  · refine Bool.eq_false_iff.mpr fun hname => ?_
    exact Bool.noConfusion (hblank.symm.trans (not_isAllBlank_of_isPartialName hname))
  · rw [partialProblems] at hp
    split at hp
    · simp at hp
    · rcases List.mem_append.mp hp with hp | hp
      · rw [problemIf] at hp
        split at hp
        · rename_i hother
          have hpath := congrArg RuleProblem.path (List.mem_singleton.mp hp)
          obtain rfl : name = other := by simpa using hpath
          simpa using hother
        · simp at hp
      · have hfault := nameless_unsafeProblems _ _ _ hp
        simp [RuleFault.ofName] at hfault

end Partials

namespace RuleDocument

open Partials

/-- A document has a problem with the name of one of its partials if the name is not accepted. -/
theorem exists_misnames_iff {d : RuleDocument} {ps : List RuleProblem} (h : d.problems = .ok ps)
    {name body : String} (hentry : d.partials.lookup name = some body) :
    (∃ p ∈ ps, p.Misnames name) ↔ isPartialName name = false := by
  constructor
  · rintro ⟨p, hp, hmisnames⟩
    obtain ⟨e, -, hp⟩ := (mem_problems_ofName h hmisnames.ofName).mp hp
    exact isPartialName_of_misnames hp hmisnames
  · intro hname
    obtain ⟨p, hp, hmisnames⟩ := exists_misnames_partialProblems hname body
    exact ⟨p, (mem_problems_ofName h hmisnames.ofName).mpr ⟨_, mem_of_lookup_eq_some hentry, hp⟩, hmisnames⟩

end RuleDocument

/-! ## Markers of accepted names -/

namespace Partials

/-- The marker of a name without blanks. -/
def marked (name : String) : String := "\x7b\x7b>" ++ name ++ "\x7d\x7d"

variable {partials : List (String × String)}

/-- A marker alone stands for the partial of the name in it, and for itself where there is none. -/
theorem expanded_marked {name : String} (h : IsInside name.toList) :
    expanded (marked name) partials = (partials.lookup (strip name)).getD (marked name) := by
  have htext : (marked name).toList = opening ++ name.toList ++ closing ++ [] := by
    rw [marked, String.toList_append, String.toList_append, List.append_nil]
    rfl
  have hname : nameOf name.toList = strip name := rfl
  rw [← String.toList_inj, toList_expanded_eq_expansion, htext,
    expansion_of_insideMarker? (insideMarker?_marker h []), expansion_nil, List.append_nil, Segment.expansion_eq,
    Segment.body?, hname]
  cases partials.lookup (strip name) with
  | some body => rfl
  | none => simp [Segment.written, htext]

theorem isInside_of_isPartialName {name : String} (h : isPartialName name = true) : IsInside name.toList := by
  have hbrace : ∀ c, isPlainWord c = false → c ≠ '\n' → c ∉ name.toList := by
    intro c hword hline hmem
    rcases isPartialName_iff.mp h with hname | ⟨short, hshort, rfl⟩
    · exact hname.not_mem hword hmem
    · rw [String.toList_append, List.mem_append] at hmem
      rcases hmem with hmem | hmem
      · exact hshort.not_mem hword hmem
      · exact hline (by simpa using hmem)
  refine ⟨fun hnil => ?_, hbrace _ rfl (by decide), hbrace _ rfl (by decide)⟩
  simp [isPartialName, hnil] at h

theorem IsName.strip_eq {name : String} (h : IsName name) : strip name = name := by
  rw [strip, stripChars_eq_self fun c hc => isBlank_of_isPlainWord (h.isPlainWord c hc), String.ofList_toList]

theorem IsName.strip_line {name : String} (h : IsName name) : strip (name ++ "\n") = name := by
  have hplain : ∀ c ∈ name.toList, isBlank c = false := fun c hc => isBlank_of_isPlainWord (h.isPlainWord c hc)
  have hne : name.toList ≠ [] := by
    obtain ⟨c, cs, hname, -⟩ := h
    simp [hname]
  have hline : ∀ c ∈ "\n".toList, isBlank c = true := by
    intro c hc
    obtain rfl : c = '\n' := by simpa using hc
    rfl
  rw [strip, String.toList_append, ← List.nil_append name.toList,
    stripChars_append (by simp) hline hne (fun c hc => hplain c (List.mem_of_mem_head? hc))
      (fun c hc => hplain c (List.mem_of_mem_getLast? hc)), String.ofList_toList]

end Partials

namespace RuleDocument

open Partials

/-- The names of partials that are accepted are letters, digits and underscores that begin with a letter, perhaps
with a line end behind them. The marker of a name without a line end stands for the text of the partial. The marker
of a name with one stands for the partial without it: that is the same text where both partials have it, or where
there is no such partial and the text is the marker itself. -/
theorem accepts_name_iff {d : RuleDocument} {ps : List RuleProblem} (hproblems : d.problems = .ok ps)
    {name body : String} (hentry : d.partials.lookup name = some body) :
    ((∀ p ∈ ps, ¬ p.Misnames name) ↔ IsName name ∨ ∃ short, IsName short ∧ name = short ++ "\n") ∧
    (IsName name → expanded (marked name) d.partials = body) ∧
    ∀ short, IsName short → name = short ++ "\n" →
      (expanded (marked name) d.partials = body ↔
        d.partials.lookup short = some body ∨ d.partials.lookup short = none ∧ body = marked name) := by
  refine ⟨?_, fun hname => ?_, fun short hshort hline => ?_⟩
  · have haccepted := not_congr (exists_misnames_iff hproblems hentry)
    simp only [not_exists, not_and, Bool.not_eq_false] at haccepted
    rw [haccepted, isPartialName_iff]
  · have hinside := isInside_of_isPartialName (isPartialName_iff.mpr (.inl hname))
    rw [expanded_marked hinside, hname.strip_eq, hentry, Option.getD_some]
  · have hinside := isInside_of_isPartialName (isPartialName_iff.mpr (.inr ⟨short, hshort, hline⟩))
    rw [expanded_marked hinside, hline, hshort.strip_line]
    cases d.partials.lookup short with
    | some other => simp
    | none => simp [eq_comm]

/-- A document that has nothing but partials. -/
def ofPartials (partials : Table String) : RuleDocument where
  metadata := none
  conditions := none
  insertions := []
  replacements := []
  smartReplacements := []
  smartInsertions := []
  partials := partials

theorem accepts_name_withAndWithoutLine :
    (ofPartials [("p", "x"), ("p\n", "x")]).problems = .ok [] ∧
    (ofPartials [("p", "x"), ("p\n", "x")]).partials.lookup "p" = some "x" ∧
    (ofPartials [("p", "x"), ("p\n", "x")]).partials.lookup "p\n" = some "x" ∧ IsName "p" ∧
    expanded (marked "p") (ofPartials [("p", "x"), ("p\n", "x")]).partials = "x" ∧
    ((∀ p ∈ ([] : List RuleProblem), ¬ p.Misnames "p\n") ↔
      IsName "p\n" ∨ ∃ short, IsName short ∧ "p\n" = short ++ "\n") ∧
    (expanded (marked "p\n") (ofPartials [("p", "x"), ("p\n", "x")]).partials = "x" ↔
      (ofPartials [("p", "x"), ("p\n", "x")]).partials.lookup "p" = some "x" ∨
        (ofPartials [("p", "x"), ("p\n", "x")]).partials.lookup "p" = none ∧ "x" = marked "p\n") := by
  have hproblems : (ofPartials [("p", "x"), ("p\n", "x")]).problems = .ok [] := by decide +kernel
  have hshort : (ofPartials [("p", "x"), ("p\n", "x")]).partials.lookup "p" = some "x" := by decide
  have hline : (ofPartials [("p", "x"), ("p\n", "x")]).partials.lookup "p\n" = some "x" := by decide
  have hname : IsName "p" := ⟨'p', [], rfl, rfl, by simp⟩
  exact ⟨hproblems, hshort, hline, hname, (accepts_name_iff hproblems hshort).2.1 hname,
    (accepts_name_iff hproblems hline).1, (accepts_name_iff hproblems hline).2.2 "p" hname rfl⟩

/-- A name with a line end is accepted, and its marker does not stand for its text. -/
theorem accepts_lineEnd :
    (ofPartials [("p\n", "x")]).problems = .ok [] ∧ ¬ IsName "p\n" ∧
      expanded (marked "p\n") (ofPartials [("p\n", "x")]).partials ≠ "x" := by
  refine ⟨by decide +kernel, ?_, by decide⟩
  rintro h
  exact absurd (h.isPlainWord '\n' (by decide)) (by decide)

end RuleDocument

end TemplateRules
