import TemplateRules.Proofs.ChainLengths
import TemplateRules.Proofs.Reading

/-!
# Well-formed documents

A text that can be read gives a document whose rules can be carried out as they are written: every
insertion has an anchor, every smart rule a target or a place, every pattern and every replacement for
its matches can be read, and no chain of fallbacks is longer than the limit.

## Main definitions

* `RuleDocument.WellFormed`: what reading establishes for the rules of a document

## Main results

* `RuleDocument.rules_of_problems`: what the absence of problems says about the rules of a document
* `RuleDocument.wellFormed_of_ofText`: a text that can be read gives a well-formed document
-/

namespace TemplateRules

/-! ## Rules without problems -/

/-- An insertion names a place. -/
def Insertion.Anchored (i : Insertion) : Prop := i.after.isSome ∨ i.before.isSome ∨ i.edge.isSome

/-- A smart replacement names a target. -/
def SmartReplacement.Targeted (r : SmartReplacement) : Prop :=
  r.candidates.isSome ∨ r.point.isSome ∨ r.variants.isSome

/-- A smart insertion names a place. -/
def SmartInsertion.Placed (i : SmartInsertion) : Prop := i.point.isSome ∨ i.locations.isSome

/-- If a replacement looks for a pattern, the pattern can be read, and so can what is put in the place
of its matches, as it is written. -/
def Replacement.Compiles (r : Replacement) : Prop :=
  r.kind = .pattern → ∃ p pieces, Pattern.compile r.find = .ok p ∧
    Pattern.replacementPieces (some Text.digitLimit) p.groups p.names r.replacement.toList = .ok pieces

theorem itemProblems_eq_nil {α : Type} {problems : String → α → List RuleProblem} {path : String}
    {items : List α} (h : itemProblems problems path items = []) :
    ∀ a ∈ items, ∃ p, problems p a = [] := by
  intro a ha
  obtain ⟨i, hi⟩ := List.mem_iff_getElem?.mp ha
  rw [itemProblems, List.flatMap_eq_nil_iff] at h
  exact ⟨_, h (a, i) (List.mk_mem_zipIdx_iff_getElem?.mpr hi)⟩

theorem countProblems_eq_nil {path : String} {count : Nat} {none several : RuleFault}
    (h : countProblems path count none several = []) : 0 < count := by
  rcases Nat.eq_zero_or_pos count with rfl | hpos
  · simp [countProblems, problemIf] at h
  · exact hpos

theorem isSome_of_not_isBlankText {s : Option String} (h : (!isBlankText s) = true) : s.isSome := by
  cases s with
  | none => simp [isBlankText] at h
  | some s => rfl

/-- An insertion without problems counts at least one place. -/
theorem Insertion.anchored_of_problems {path : String} {i : Insertion} (h : i.problems path = []) :
    i.Anchored := by
  simp only [Insertion.problems, List.append_eq_nil_iff] at h
  obtain ⟨s, hmem, hs⟩ := List.countP_pos_iff.mp (countProblems_eq_nil h.1.1.1)
  have hsome := isSome_of_not_isBlankText hs
  simp only [List.mem_cons, List.not_mem_nil, or_false] at hmem
  rcases hmem with rfl | rfl | rfl
  · exact .inl hsome
  · exact .inr (.inl hsome)
  · exact .inr (.inr hsome)

/-- Insertions of a chain without problems have none of their own. -/
theorem Insertion.exists_problems_of_chainProblems {path : String} {rules : List Insertion}
    (h : chainProblems path rules = []) : ∀ i ∈ rules, ∃ p, i.problems p = [] := by
  induction rules generalizing path with
  | nil => simp
  | cons i rules ih =>
    simp only [chainProblems, List.append_eq_nil_iff] at h
    exact List.forall_mem_cons.mpr ⟨⟨path, h.1.1⟩, ih h.1.2⟩

theorem Insertion.anchored_of_chainProblems {path : String} {rules : List Insertion}
    (h : chainProblems path rules = []) : ∀ i ∈ rules, i.Anchored := by
  intro i hi
  obtain ⟨_, hp⟩ := exists_problems_of_chainProblems h i hi
  exact anchored_of_problems hp

theorem SmartReplacement.targeted_of_problems {path : String} {r : SmartReplacement}
    (h : r.problems path = []) : r.Targeted := by
  simp only [SmartReplacement.problems, List.append_eq_nil_iff] at h
  obtain ⟨b, hmem, rfl⟩ := List.countP_pos_iff.mp (countProblems_eq_nil h.1.1.1.1.1.1)
  simp only [List.mem_cons, List.not_mem_nil, or_false] at hmem
  rcases hmem with hb | hb | hb
  · left
    cases hc : r.candidates with
    | none => simp [hc] at hb
    | some candidates => rfl
  · exact .inr (.inl (isSome_of_not_isBlankText hb.symm))
  · exact .inr (.inr hb.symm)

theorem SmartInsertion.placed_of_problems {path : String} {i : SmartInsertion}
    (h : i.problems path = []) : i.Placed ∧ ∀ f ∈ i.fallbacks, f.Anchored := by
  simp only [SmartInsertion.problems, List.append_eq_nil_iff] at h
  refine ⟨?_, Insertion.anchored_of_chainProblems h.1.2⟩
  obtain ⟨b, hmem, rfl⟩ := List.countP_pos_iff.mp (countProblems_eq_nil h.1.1.1.1.1.1)
  simp only [List.mem_cons, List.not_mem_nil, or_false] at hmem
  rcases hmem with hb | hb
  · exact .inl (isSome_of_not_isBlankText hb.symm)
  · exact .inr hb.symm

theorem Replacement.compiles_of_targetProblems {path : String} {r : Replacement}
    (h : r.targetProblems path = .ok []) : r.Compiles := by
  intro hkind
  rw [targetProblems] at h
  split at h
  · simp at h
  · rw [hkind] at h
    simp only at h
    split at h
    · simp at h
    · simp at h
    · rename_i p hcompile
      split at h
      · rename_i pieces hpieces
        exact ⟨p, pieces, hcompile, hpieces⟩
      · simp at h
      · simp at h

theorem Replacement.compiles_of_chainProblems {path : String} {rules : List Replacement}
    (h : chainProblems path rules = .ok []) : ∀ r ∈ rules, r.Compiles := by
  induction rules generalizing path with
  | nil => simp
  | cons r rules ih =>
    rw [chainProblems] at h
    obtain ⟨target, htarget, h⟩ := bind_eq_ok.mp h
    obtain ⟨rest, hrest, h⟩ := bind_eq_ok.mp h
    simp only [pure_eq_ok, Except.ok.injEq, List.append_eq_nil_iff] at h
    obtain ⟨⟨⟨⟨rfl, -⟩, rfl⟩, -⟩, -⟩ := h
    exact List.forall_mem_cons.mpr ⟨compiles_of_targetProblems htarget, ih hrest⟩

/-! ## Documents -/

namespace RuleDocument

/-- The rules of a document can be carried out as they are written: they name places and targets, their
patterns can be read, and their chains have at most `limit` fallbacks. The fallback of a smart insertion
counts as the first of a chain. -/
structure WellFormed (limit : Nat) (d : RuleDocument) : Prop where
  insertions : ∀ c ∈ d.insertions, c.rules.length ≤ limit + 1 ∧ ∀ i ∈ c.rules, i.Anchored
  replacements : ∀ c ∈ d.replacements, c.rules.length ≤ limit + 1 ∧ ∀ r ∈ c.rules, r.Compiles
  smartReplacements : ∀ r ∈ d.smartReplacements, r.Targeted
  smartInsertions : ∀ i ∈ d.smartInsertions,
    i.Placed ∧ i.fallbacks.length ≤ limit ∧ ∀ f ∈ i.fallbacks, f.Anchored

/-- A document has no problems if none of its parts has any; these are the ones of its rules and
partials. -/
theorem parts_of_problems {d : RuleDocument} (h : d.problems = .ok []) :
    (∀ c ∈ d.insertions, ∃ p, Insertion.chainProblems p c.rules = []) ∧
    (∀ c ∈ d.replacements, ∃ p, Replacement.chainProblems p c.rules = .ok []) ∧
    (∀ r ∈ d.smartReplacements, ∃ p, r.problems p = []) ∧
    (∀ i ∈ d.smartInsertions, ∃ p, i.problems p = []) ∧
    ∀ e ∈ d.partials, partialProblems e.1 e.2 = [] := by
  obtain ⟨problems, hreplacements, h⟩ := bind_eq_ok.mp h
  simp only [pure_eq_ok, Except.ok.injEq, List.append_eq_nil_iff] at h
  obtain ⟨⟨⟨⟨⟨-, -⟩, hinsertions⟩, hflat⟩, hsmartReplacements⟩, hsmartInsertions⟩ := h.1
  refine ⟨itemProblems_eq_nil hinsertions, fun c hc => ?_, itemProblems_eq_nil hsmartReplacements,
    itemProblems_eq_nil hsmartInsertions, List.flatMap_eq_nil_iff.mp h.2⟩
  obtain ⟨i, hi⟩ := List.mem_iff_getElem?.mp hc
  obtain ⟨ps, hps, hchain⟩ := exists_of_mapM_eq_ok hreplacements
    (List.mk_mem_zipIdx_iff_getElem?.mpr hi)
  rw [List.flatten_eq_nil_iff.mp hflat ps hps] at hchain
  exact ⟨_, hchain⟩

/-- What the absence of problems says about the rules of a document. -/
theorem rules_of_problems {d : RuleDocument} (h : d.problems = .ok []) :
    (∀ c ∈ d.insertions, ∀ i ∈ c.rules, i.Anchored) ∧
    (∀ c ∈ d.replacements, ∀ r ∈ c.rules, r.Compiles) ∧
    (∀ r ∈ d.smartReplacements, r.Targeted) ∧
    ∀ i ∈ d.smartInsertions, i.Placed ∧ ∀ f ∈ i.fallbacks, f.Anchored := by
  obtain ⟨hinsertions, hreplacements, hsmartReplacements, hsmartInsertions, -⟩ := parts_of_problems h
  refine ⟨fun c hc => ?_, fun c hc => ?_, fun r hr => ?_, fun i hi => ?_⟩
  · obtain ⟨_, hp⟩ := hinsertions c hc
    exact Insertion.anchored_of_chainProblems hp
  · obtain ⟨_, hp⟩ := hreplacements c hc
    exact Replacement.compiles_of_chainProblems hp
  · obtain ⟨_, hp⟩ := hsmartReplacements r hr
    exact SmartReplacement.targeted_of_problems hp
  · obtain ⟨_, hp⟩ := hsmartInsertions i hi
    exact SmartInsertion.placed_of_problems hp

/-- **Texts that can be read give well-formed documents.** -/
theorem wellFormed_of_ofText {limit : Int} {source text : String} {d : RuleDocument} (hlimit : 1 ≤ limit)
    (h : ofText limit source text = .ok d) : d.WellFormed limit.toNat := by
  obtain ⟨g, root, -, hcheck, hbound, hproblems⟩ := ofText_eq_ok_iff.mp h
  have hshort := shortChains_of_walk g.pictures hlimit ⟨_, rfl⟩ (Structure.check_eq_ok_iff.mp hcheck).1 hbound
  obtain ⟨hinsertions, hreplacements, hsmartReplacements, hsmartInsertions⟩ :=
    rules_of_problems hproblems
  exact {
    insertions := fun c hc => ⟨hshort.insertions c hc, hinsertions c hc⟩
    replacements := fun c hc => ⟨hshort.replacements c hc, hreplacements c hc⟩
    smartReplacements := hsmartReplacements
    smartInsertions := fun i hi =>
      ⟨(hsmartInsertions i hi).1, hshort.smartInsertions i hi, (hsmartInsertions i hi).2⟩ }

end RuleDocument

end TemplateRules
