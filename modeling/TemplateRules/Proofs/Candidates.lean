import TemplateRules.Proofs.NamedPoints
import TemplateRules.Proofs.Rewriting

/-!
# Candidates

Where there are several candidates for a place in a text, the first of the list that occurs counts, wherever the
others occur, and its first occurrence is the place. Smart replacements and named points look for it in one way,
and lists of locations in another; a named point is a list of locations behind its candidates.

## Main definitions

* `IsFirst`: the first item of a list that has a property
* `ReplacesFirst`: the first occurrence of the first candidate replaced
* `PatternLocation.behind`: the place behind an anchor

## Main results

* `Locator.replacesFirst_replaceAny`: smart replacements take the first candidate that occurs
* `Locator.value_insertAtPoint_of_isFirst`, `Locator.value_insertAtFirst_of_isFirst`: so do named points and lists
  of locations
* `Locator.resolves_candidates`: replacing and inserting agree on the candidate and on the place
-/

namespace TemplateRules

open Text

/-! ## The first candidate -/

/-- The first item of a list that has a property. -/
def IsFirst (counts : String → Prop) (candidates : List String) (c : String) : Prop :=
  ∃ before after, candidates = before ++ c :: after ∧ counts c ∧ ∀ b ∈ before, ¬ counts b

section First

variable {counts counts' : String → Prop} {candidates : List String} {c d : String}

theorem isFirst_cons_iff : IsFirst counts (d :: candidates) c ↔
    counts d ∧ c = d ∨ ¬ counts d ∧ IsFirst counts candidates c := by
  constructor
  · rintro ⟨_ | ⟨b, before⟩, after, hsplit, hc, hbefore⟩
    · obtain ⟨rfl, rfl⟩ : d = c ∧ candidates = after := by simpa using hsplit
      exact .inl ⟨hc, rfl⟩
    · obtain ⟨rfl, rfl⟩ : d = b ∧ candidates = before ++ c :: after := by simpa using hsplit
      obtain ⟨hd, hbefore⟩ := List.forall_mem_cons.mp hbefore
      exact .inr ⟨hd, before, after, rfl, hc, hbefore⟩
  · rintro (⟨hd, rfl⟩ | ⟨hd, before, after, rfl, hc, hbefore⟩)
    · exact ⟨[], candidates, rfl, hd, by simp⟩
    · exact ⟨d :: before, after, rfl, hc, List.forall_mem_cons.mpr ⟨hd, hbefore⟩⟩

/-- The first item with a property is the first with another one, where the items that have one have the other. -/
theorem IsFirst.congr (hcounts : ∀ b ∈ candidates, counts b ↔ counts' b) (h : IsFirst counts candidates c) :
    IsFirst counts' candidates c := by
  obtain ⟨before, after, rfl, hc, hbefore⟩ := h
  refine ⟨before, after, rfl, (hcounts c (by simp)).mp hc, fun b hb hb' => ?_⟩
  exact hbefore b hb ((hcounts b (by simp [hb])).mpr hb')

/-- A list has a first item with a property, or no item of it has the property. -/
theorem exists_isFirst_or (counts : String → Prop) (candidates : List String) :
    (∃ c, IsFirst counts candidates c) ∨ ∀ c ∈ candidates, ¬ counts c := by
  induction candidates with
  | nil => exact .inr (by simp)
  | cons d candidates ih =>
    by_cases hd : counts d
    · exact .inl ⟨d, isFirst_cons_iff.mpr (.inl ⟨hd, rfl⟩)⟩
    · rcases ih with ⟨c, hc⟩ | hnone
      · exact .inl ⟨c, isFirst_cons_iff.mpr (.inr ⟨hd, hc⟩)⟩
      · exact .inr (List.forall_mem_cons.mpr ⟨hd, hnone⟩)

end First

/-- The first occurrence of the first candidate that is not empty and occurs, replaced, or the text as it is if
there is no such candidate. -/
inductive ReplacesFirst (candidates : List String) (replacement text : String) : String → Prop
  | present {c before after : String} (first : IsFirst (fun c => c ≠ "" ∧ Occurs c text) candidates c)
      (around : FirstAround c text before after) :
      ReplacesFirst candidates replacement text (before ++ replacement ++ after)
  | absent (nowhere : ∀ c ∈ candidates, c ≠ "" → ¬ Occurs c text) :
      ReplacesFirst candidates replacement text text

/-- The place behind an anchor. -/
def PatternLocation.behind (anchor : String) : PatternLocation := ⟨some anchor, none⟩

namespace Locator

variable {text point c : String} {candidates : List String}

/-- Smart replacements take the first candidate that occurs. -/
theorem replacesFirst_replaceAny (candidates : List String) (replacement text : String) :
    ReplacesFirst candidates replacement text (replaceAny text candidates replacement).value := by
  rw [replaceAny]
  cases hfirst : firstPresent? text candidates with
  | none =>
    refine .absent fun c hc hne hoccurs => ?_
    exact firstPresent?_eq_none_iff.mp hfirst ⟨c, hc, hne, hoccurs⟩
  | some c =>
    have hc : IsFirst (fun c => c ≠ "" ∧ Occurs c text) candidates c := firstPresent?_eq_some_iff.mp hfirst
    obtain ⟨-, -, -, ⟨hne, hoccurs⟩, -⟩ := hc
    obtain ⟨before, after, haround⟩ := exists_firstAround hoccurs
    simp only [Traced.value_bind, Traced.value_pure, Edit.replaceFirst_of_firstAround hne haround]
    exact .present (firstPresent?_eq_some_iff.mp hfirst) haround

/-! ## Named points and locations -/

/-- At a list of locations behind candidates content is put behind the first candidate that occurs. -/
theorem value_insertAtFirst_of_isFirst (content : String) (h : IsFirst (Occurs · text) candidates c) :
    (insertAtFirst text (candidates.map PatternLocation.behind) content).value =
      (Edit.insertAfter text c content).value := by
  induction candidates with
  | nil =>
    obtain ⟨before, after, hsplit, -⟩ := h
    simp at hsplit
  | cons d candidates ih =>
    rw [List.map_cons, insertAtFirst]
    rcases isFirst_cons_iff.mp h with ⟨hd, rfl⟩ | ⟨hd, hc⟩
    · have hfilter : (some c).filter (contains text) = some c := by simp [contains_iff.mpr hd]
      simp only [PatternLocation.behind, hfilter, Traced.value_bind]
    · have hfilter : (some d).filter (contains text) = none := by simp [contains_iff, hd]
      simp only [PatternLocation.behind, hfilter, Option.filter_none]
      exact ih hc

/-- Where none of the candidates occurs there is no location behind one. -/
theorem value_insertAtFirst_of_not_occurs (content : String) (h : ∀ c ∈ candidates, ¬ Occurs c text) :
    (insertAtFirst text (candidates.map PatternLocation.behind) content).value = text := by
  refine (putAtFirst_any content text _).eq_text fun l hl a ha _ => ?_
  obtain ⟨c, hc, rfl⟩ := List.mem_map.mp hl
  obtain rfl : c = a := by simpa [PatternLocation.Gives, PatternLocation.behind] using ha
  exact h c hc

section NamedPoint

variable (hlookup : points.lookup point = some candidates) (hstart : point ≠ startOfFile)
  (hend : point ≠ endOfFile)
include hlookup hstart hend

/-- At a named point content is put behind the first candidate that occurs. -/
theorem value_insertAtPoint_of_isFirst (content : String) (h : IsFirst (Occurs · text) candidates c) :
    (insertAtPoint text point content).value = (Edit.insertAfter text c content).value := by
  have hfirst : firstPresent? text candidates = some c := firstPresent?_eq_some_iff.mpr <|
    h.congr fun d hd => (and_iff_right (candidate_ne_empty hlookup d hd)).symm
  rw [insertAtPoint, if_neg hstart, if_neg hend]
  simp only [hlookup, hfirst, Traced.value_bind]

theorem value_insertAtPoint_of_not_occurs (content : String) (h : ∀ c ∈ candidates, ¬ Occurs c text) :
    (insertAtPoint text point content).value = text := by
  have hnone : firstPresent? text candidates = none :=
    firstPresent?_eq_none_iff.mpr fun ⟨c, hc, _, hoccurs⟩ => h c hc hoccurs
  rw [insertAtPoint, if_neg hstart, if_neg hend]
  simp only [hlookup, hnone, Traced.value_bind, Traced.value_pure]

end NamedPoint

/-- **One way to resolve candidates.** Of several candidates the first of the list that is not empty and occurs has
its first occurrence replaced, and nothing else changes. Inserting at a named point that is no edge is inserting at
the locations behind its candidates, in their order; that is to insert behind the first of them that occurs, or to
leave the text as it is. -/
theorem resolves_candidates (text : String) (candidates : List String) (replacement content : String) :
    ReplacesFirst candidates replacement text (replaceAny text candidates replacement).value ∧
    ∀ point cs, points.lookup point = some cs → point ≠ startOfFile → point ≠ endOfFile →
      (insertAtPoint text point content).value =
        (insertAtFirst text (cs.map PatternLocation.behind) content).value ∧
      (∀ c, IsFirst (Occurs · text) cs c →
        (insertAtPoint text point content).value = (Edit.insertAfter text c content).value) ∧
      ((∀ c ∈ cs, ¬ Occurs c text) → (insertAtPoint text point content).value = text) := by
  refine ⟨replacesFirst_replaceAny candidates replacement text, fun point cs hlookup hstart hend => ⟨?_, ?_, ?_⟩⟩
  · rcases exists_isFirst_or (Occurs · text) cs with ⟨c, hc⟩ | hnone
    · rw [value_insertAtPoint_of_isFirst hlookup hstart hend content hc, value_insertAtFirst_of_isFirst content hc]
    · rw [value_insertAtPoint_of_not_occurs hlookup hstart hend content hnone,
        value_insertAtFirst_of_not_occurs content hnone]
  · exact fun c hc => value_insertAtPoint_of_isFirst hlookup hstart hend content hc
  · exact value_insertAtPoint_of_not_occurs hlookup hstart hend content

/-- A text with two candidates of a point, the one that stands later in the text being the earlier of the list. -/
def importLine : String := "import a;b\x7b\x7b/import\x7d\x7db"

theorem resolves_candidates_importLine :
    ReplacesFirst ["", "b", "a"] "x" importLine "import a;x\x7b\x7b/import\x7d\x7db" ∧
    ∃ cs, points.lookup "end_of_imports" = some cs ∧ "end_of_imports" ≠ startOfFile ∧
      "end_of_imports" ≠ endOfFile ∧ IsFirst (Occurs · importLine) cs "\x7b\x7b/import\x7d\x7d" ∧
      (insertAtPoint importLine "end_of_imports" "+").value = "import a;b\x7b\x7b/import\x7d\x7d+b" ∧
      (insertAtFirst importLine (cs.map PatternLocation.behind) "+").value =
        "import a;b\x7b\x7b/import\x7d\x7d+b" ∧
      (∀ c ∈ cs, ¬ Occurs c "") ∧ (insertAtPoint "" "end_of_imports" "+").value = "" := by
  have hoccurs : ∀ c text, contains text c = false → ¬ Occurs c text := by
    intro c text h
    rw [← contains_iff, h]
    simp
  have hreplaced : (replaceAny importLine ["", "b", "a"] "x").value =
      "import a;x\x7b\x7b/import\x7d\x7db" := by decide
  have hinserted : (Edit.insertAfter importLine "\x7b\x7b/import\x7d\x7d" "+").value =
      "import a;b\x7b\x7b/import\x7d\x7d+b" := by decide
  obtain ⟨cs, hlookup, hcs⟩ : ∃ cs, points.lookup "end_of_imports" = some cs ∧
      cs = ["\x7b\x7b/imports\x7d\x7d", "\x7b\x7b/import\x7d\x7d", "import ", "; // imports end"] :=
    ⟨_, by decide, rfl⟩
  have hstart : "end_of_imports" ≠ startOfFile := by decide
  have hend : "end_of_imports" ≠ endOfFile := by decide
  have hfirst : IsFirst (Occurs · importLine) cs "\x7b\x7b/import\x7d\x7d" := by
    refine ⟨["\x7b\x7b/imports\x7d\x7d"], _, hcs, contains_iff.mp (by decide), fun c hc => ?_⟩
    rw [List.mem_singleton.mp hc]
    exact hoccurs _ _ (by decide)
  have hnowhere : ∀ c ∈ cs, ¬ Occurs c "" := by
    have hempty : (cs.all fun c => !contains "" c) = true := by
      rw [hcs]
      decide
    exact fun c hc => hoccurs c "" (by simpa using List.all_eq_true.mp hempty c hc)
  obtain ⟨hreplaces, hpoints⟩ := resolves_candidates importLine ["", "b", "a"] "x" "+"
  obtain ⟨hsame, hpresent, -⟩ := hpoints _ cs hlookup hstart hend
  have hpoint := (hpresent _ hfirst).trans hinserted
  have habsent := ((resolves_candidates "" [] "x" "+").2 _ cs hlookup hstart hend).2.2 hnowhere
  exact ⟨hreplaced ▸ hreplaces, cs, hlookup, hstart, hend, hfirst, hpoint, hsame.symm.trans hpoint, hnowhere, habsent⟩

end Locator

end TemplateRules
