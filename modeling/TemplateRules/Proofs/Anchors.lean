import Mathlib.Data.List.TakeWhile
import TemplateRules.Proofs.Placement
import TemplateRules.Proofs.Plan

/-!
# The anchor of an insertion

An insertion is accepted if just one of its anchors and edges is not blank, and a location if just one of
its anchors is not. A pass does not look at blanks: it goes by the first place that is given. Where a blank
anchor is given before the one that counts, the two disagree, and the content is not put where the document
has been checked to put it.

## Main definitions

* `Text.NonBlank`: texts that count where places are counted
* `Insertion.OneAnchor`, `PatternLocation.OneAnchor`: what validation wants of insertions and locations
* `Insertion.Puts`: content at the first place of an insertion that counts
* `RuleDocument.Applies`: what a pass does for an insertion whose turn it is

## Main results

* `Insertion.forall_puts_iff`: where the first place that is given is the one that counts
* `RuleDocument.puts_anchor_iff`: the insertions of accepted documents that are put at their anchor
-/

namespace TemplateRules

open Text

/-! ## Texts that are not blank -/

namespace Text

/-- A text that holds something else than blanks. -/
def NonBlank (s : String) : Prop := isAllBlank s = false

theorem not_nonBlank {s : String} : ¬ NonBlank s ↔ isAllBlank s = true := by simp [NonBlank]

/-- In blanks there are only blanks. -/
theorem not_occurs_of_nonBlank {anchor text : String} (hanchor : NonBlank anchor)
    (htext : isAllBlank text = true) : ¬ Occurs anchor text := by
  rintro ⟨before, after, rfl⟩
  simp only [isAllBlank, String.toList_append, List.all_append, Bool.and_eq_true] at htext
  exact not_nonBlank.mpr htext.1.2 hanchor

theorem strip_of_isAllBlank {s : String} (h : isAllBlank s = true) : strip s = "" := by
  have hnone : s.toList.dropWhile isBlank = [] :=
    List.dropWhile_eq_nil_iff.mpr (List.all_eq_true.mp h)
  simp [strip, stripChars, hnone]

theorem occurs_in_empty {anchor : String} (h : Occurs anchor "") : anchor = "" := by
  obtain ⟨before, after, h⟩ := h
  have hlength := congrArg String.length h
  simp only [String.length_append, String.length_empty] at hlength
  exact String.length_eq_zero_iff.mp (by omega)

/-- Content that is the same before and after every text is empty. -/
theorem eq_empty_of_append_comm {content : String} (h : ∀ text, content ++ text = text ++ content) :
    content = "" := by
  by_contra hne
  obtain ⟨c, cs, hcontent⟩ := List.exists_cons_of_ne_nil (mt String.toList_eq_nil_iff.mp hne)
  have hhead : ∀ a : Char, c = a := by
    intro a
    have hcomm := congrArg String.toList (h (String.singleton a))
    simp only [String.toList_append, String.toList_singleton, hcontent, List.cons_append,
      List.nil_append, List.cons.injEq] at hcomm
    exact hcomm.1
  exact absurd ((hhead 'a').symm.trans (hhead 'b')) (by decide)

end Text

theorem not_isBlankText_of_nonBlank {s : String} (h : NonBlank s) : (!isBlankText (some s)) = true := by
  simpa [isBlankText, NonBlank] using h

theorem nonBlank_of_not_isBlankText {s : Option String} (h : (!isBlankText s) = true) :
    ∃ a, s = some a ∧ NonBlank a := by
  cases s with
  | none => simp [isBlankText] at h
  | some a => exact ⟨a, rfl, by simpa [isBlankText, NonBlank] using h⟩

/-! ## Places -/

namespace Insertion

/-- A text is one of the anchors that are given for an insertion. -/
def Gives (i : Insertion) (anchor : String) : Prop := i.after = some anchor ∨ i.before = some anchor

/-- The place that is given first, be it blank or not. -/
def leading (i : Insertion) : Option String := i.after.or (i.before.or i.edge)

/-- Validation wants one place that is not blank, and an edge that is known. -/
structure OneAnchor (i : Insertion) : Prop where
  one : [i.after, i.before, i.edge].countP (!isBlankText ·) = 1
  edge : ∀ edge, i.edge = some edge → lower (strip edge) = "start" ∨ lower (strip edge) = "end"

/-- Content put at the first place of an insertion that counts: next to an anchor, or at an edge if no
anchor counts. -/
inductive Puts (counts : String → Prop) (i : Insertion) (content text : String) : String → Prop
  | after {anchor result : String} (given : i.after = some anchor) (valid : counts anchor)
      (put : PutNextTo .after anchor content text result) : Puts counts i content text result
  | before {anchor result : String} (passed : ∀ a, i.after = some a → ¬ counts a)
      (given : i.before = some anchor) (valid : counts anchor)
      (put : PutNextTo .before anchor content text result) : Puts counts i content text result
  | start {edge : String} (passed : ∀ a, i.Gives a → ¬ counts a) (given : i.edge = some edge)
      (word : lower (strip edge) = "start") : Puts counts i content text (content ++ text)
  | finish {edge : String} (passed : ∀ a, i.Gives a → ¬ counts a) (given : i.edge = some edge)
      (word : lower (strip edge) = "end") : Puts counts i content text (text ++ content)

/-- The place that is given first counts: it is not blank, or it is the empty anchor of an insertion at the
start, where the empty text occurs first. -/
def LeadCounts (i : Insertion) : Prop :=
  (∃ a, i.leading = some a ∧ NonBlank a) ∨
    i.leading = some "" ∧ ∃ edge, i.edge = some edge ∧ lower (strip edge) = "start"

end Insertion

/-- Validation wants one anchor that is not blank. -/
def PatternLocation.OneAnchor (l : PatternLocation) : Prop :=
  [l.after, l.before].countP (!isBlankText ·) = 1

/-! ## Validation -/

theorem countProblems_eq_nil_iff {path : String} {count : Nat} {none several : RuleFault} :
    countProblems path count none several = [] ↔ count = 1 := by
  have hif : ∀ (condition : Bool) (fault : RuleFault),
      problemIf condition path fault = [] ↔ condition = false := by
    intro condition fault
    cases condition <;> simp [problemIf]
  rw [countProblems, List.append_eq_nil_iff, hif, hif, beq_eq_false_iff_ne, decide_eq_false_iff_not]
  omega

theorem Insertion.oneAnchor_of_problems {path : String} {i : Insertion} (h : i.problems path = []) :
    i.OneAnchor := by
  simp only [Insertion.problems, List.append_eq_nil_iff] at h
  refine ⟨countProblems_eq_nil_iff.mp h.1.1.1, fun edge hedge => ?_⟩
  have hknown := h.1.1.2
  rw [hedge] at hknown
  simpa [problemIf, Classical.or_iff_not_imp_left] using hknown

theorem PatternLocation.oneAnchor_of_problems {path : String} {l : PatternLocation}
    (h : l.problems path = []) : l.OneAnchor := countProblems_eq_nil_iff.mp h

theorem locations_of_locationsProblems {path : String} {ls : List PatternLocation}
    (h : locationsProblems path ls = []) : ls ≠ [] ∧ ∀ l ∈ ls, l.OneAnchor := by
  rw [locationsProblems, List.append_eq_nil_iff] at h
  refine ⟨?_, fun l hl => ?_⟩
  · rintro rfl
    simp [problemIf] at h
  · obtain ⟨_, hp⟩ := itemProblems_eq_nil h.2 l hl
    exact PatternLocation.oneAnchor_of_problems hp

namespace RuleDocument

/-- The insertions of a document at every level: those of its chains, and those that its smart insertions
fall back on. -/
def insertionRules (d : RuleDocument) : List Insertion :=
  d.insertions.flatMap Chain.rules ++ d.smartInsertions.flatMap SmartInsertion.fallbacks

/-- The locations of a document. -/
def locationLists (d : RuleDocument) : List (List PatternLocation) :=
  d.smartInsertions.filterMap SmartInsertion.locations

theorem oneAnchor_of_problems {d : RuleDocument} (h : d.problems = .ok []) :
    (∀ i ∈ d.insertionRules, i.OneAnchor) ∧
      ∀ ls ∈ d.locationLists, ∀ l ∈ ls, l.OneAnchor := by
  obtain ⟨hinsertions, -, -, hsmartInsertions, -⟩ := parts_of_problems h
  constructor
  · intro i hi
    rcases List.mem_append.mp hi with hi | hi
    · obtain ⟨c, hc, hi⟩ := List.mem_flatMap.mp hi
      obtain ⟨_, hp⟩ := hinsertions c hc
      obtain ⟨_, hp⟩ := Insertion.exists_problems_of_chainProblems hp i hi
      exact Insertion.oneAnchor_of_problems hp
    · obtain ⟨j, hj, hi⟩ := List.mem_flatMap.mp hi
      obtain ⟨_, hp⟩ := hsmartInsertions j hj
      simp only [SmartInsertion.problems, List.append_eq_nil_iff] at hp
      obtain ⟨_, hp⟩ := Insertion.exists_problems_of_chainProblems hp.1.2 i hi
      exact Insertion.oneAnchor_of_problems hp
  · intro ls hls
    obtain ⟨j, hj, hls⟩ := List.mem_filterMap.mp hls
    obtain ⟨_, hp⟩ := hsmartInsertions j hj
    simp only [SmartInsertion.problems, List.append_eq_nil_iff, hls, Option.map_some,
      Option.getD_some] at hp
    exact (locations_of_locationsProblems hp.1.1.1.1.2).2

end RuleDocument

/-! ## Insertions -/

namespace Insertion

variable {i : Insertion} {counts : String → Prop} {content text result : String}

/-- A known edge is not blank. -/
theorem OneAnchor.nonBlank_edge (hi : i.OneAnchor) {edge : String} (h : i.edge = some edge) :
    NonBlank edge := by
  by_contra hblank
  have hword := hi.edge edge h
  rw [strip_of_isAllBlank (not_nonBlank.mp hblank)] at hword
  exact absurd hword (by decide)

/-- No two of the places are not blank. -/
theorem OneAnchor.unique (hi : i.OneAnchor) :
    (∀ a b, i.after = some a → NonBlank a → i.before = some b → ¬ NonBlank b) ∧
      ∀ a edge, i.Gives a → NonBlank a → i.edge ≠ some edge := by
  have hone := hi.one
  constructor
  · intro a b hafter ha hbefore hb
    rw [hafter, hbefore] at hone
    simp only [List.countP_cons, not_isBlankText_of_nonBlank ha, not_isBlankText_of_nonBlank hb,
      if_true] at hone
    omega
  · rintro a edge (hgiven | hgiven) ha hedge
    all_goals
      rw [hgiven, hedge] at hone
      simp only [List.countP_cons, not_isBlankText_of_nonBlank ha,
        not_isBlankText_of_nonBlank (hi.nonBlank_edge hedge), if_true] at hone
      omega

/-- One of the places is not blank. -/
theorem OneAnchor.exists_puts (hi : i.OneAnchor) (content text : String) :
    ∃ result, i.Puts NonBlank content text result := by
  obtain ⟨place, hmem, hplace⟩ := List.countP_pos_iff.mp (hi.one ▸ Nat.one_pos)
  obtain ⟨a, rfl, ha⟩ := nonBlank_of_not_isBlankText hplace
  simp only [List.mem_cons, List.not_mem_nil, or_false] at hmem
  rcases hmem with hafter | hbefore | hedge
  · exact ⟨_, .after hafter.symm ha (putNextTo_insertAfter a content text)⟩
  · exact ⟨_, .before (fun a' hafter ha' => hi.unique.1 a' a hafter ha' hbefore.symm ha) hbefore.symm ha
      (putNextTo_insertBefore a content text)⟩
  · have hpassed : ∀ a', i.Gives a' → ¬ NonBlank a' := fun a' hgiven ha' =>
      hi.unique.2 a' a hgiven ha' hedge.symm
    rcases hi.edge a hedge.symm with hword | hword
    · exact ⟨_, .start hpassed hedge.symm hword⟩
    · exact ⟨_, .finish hpassed hedge.symm hword⟩

theorem Puts.eq_text_of_empty (h : i.Puts counts "" text result) : result = text := by
  cases h with
  | after _ _ put => exact put.eq_text_of_empty
  | before _ _ _ put => exact put.eq_text_of_empty
  | start => exact String.empty_append
  | finish => exact String.append_empty

/-- Where the anchor `after` does not count and the anchor `before` does, content is put before it. -/
theorem Puts.putNextTo_before (h : i.Puts counts content text result)
    (passed : ∀ a, i.after = some a → ¬ counts a) {b : String} (hbefore : i.before = some b)
    (hb : counts b) : PutNextTo .before b content text result := by
  cases h with
  | after given valid _ => exact absurd valid (passed _ given)
  | before _ given _ put => rwa [Option.some.inj (hbefore.symm.trans given)]
  | start passed => exact absurd hb (passed b (.inr hbefore))
  | finish passed => exact absurd hb (passed b (.inr hbefore))

/-- Where no anchor counts the content stands at the edge. -/
theorem Puts.eq_of_edge (h : i.Puts counts content text result)
    (passed : ∀ a, i.Gives a → ¬ counts a) : ∃ edge, i.edge = some edge ∧
      (lower (strip edge) = "start" ∧ result = content ++ text ∨
        lower (strip edge) = "end" ∧ result = text ++ content) := by
  cases h with
  | after given valid _ => exact absurd valid (passed _ (.inl given))
  | before _ given valid _ => exact absurd valid (passed _ (.inr given))
  | start _ given word => exact ⟨_, given, .inl ⟨word, rfl⟩⟩
  | finish _ given word => exact ⟨_, given, .inr ⟨word, rfl⟩⟩

/-- An edit puts the content at the place that is given first: the places are tried in the order of
`leading`. -/
theorem OneAnchor.exists_outcome_puts (hi : i.OneAnchor) (p : Pass) (text : String) :
    ∃ result, (i.edit p text).outcome = .ok result ∧
      i.Puts (fun _ => True) (Partials.expanded i.content p.partials) text result := by
  simp only [Insertion.edit, Attempt.outcome_bind, Pass.outcome_expand, ok_bind]
  cases hafter : i.after with
  | some a => exact ⟨_, rfl, .after hafter trivial (putNextTo_insertAfter ..)⟩
  | none =>
    cases hbefore : i.before with
    | some b =>
      exact ⟨_, rfl, .before (by simp [hafter]) hbefore trivial (putNextTo_insertBefore ..)⟩
    | none =>
      have hpassed : ∀ a, i.Gives a → ¬ True := by simp [Gives, hafter, hbefore]
      cases hedge : i.edge with
      | none =>
        have hone := hi.one
        simp [hafter, hbefore, hedge, isBlankText] at hone
      | some edge =>
        simp only [Insertion.atEdge]
        rcases hi.edge edge hedge with hword | hword
        · rw [if_pos hword]
          exact ⟨_, rfl, .start hpassed hedge hword⟩
        · rw [if_neg (by rw [hword]; decide), if_pos hword]
          exact ⟨_, rfl, .finish hpassed hedge hword⟩

/-- Where no anchor is given, there is an edge. -/
theorem OneAnchor.exists_leading (hi : i.OneAnchor) : ∃ a, i.leading = some a := by
  rw [← Option.isSome_iff_exists, leading, Option.isSome_or, Option.isSome_or]
  obtain ⟨place, hmem, hplace⟩ := List.countP_pos_iff.mp (hi.one ▸ Nat.one_pos)
  obtain ⟨a, rfl, -⟩ := nonBlank_of_not_isBlankText hplace
  simp only [List.mem_cons, List.not_mem_nil, or_false] at hmem
  rcases hmem with h | h | h <;> simp [← h]

/-- A place that is blank and given first is an anchor, and content is put next to it. -/
theorem OneAnchor.exists_side (hi : i.OneAnchor) {a : String} (hleading : i.leading = some a)
    (hblank : isAllBlank a = true) : ∃ side, ∀ content text result,
      i.Puts (fun _ => True) content text result → PutNextTo side a content text result := by
  rw [leading] at hleading
  cases hafter : i.after with
  | some b =>
    obtain rfl : b = a := by simpa [hafter] using hleading
    refine ⟨.after, fun content text result h => ?_⟩
    cases h with
    | after given _ put => rwa [Option.some.inj (hafter.symm.trans given)]
    | before passed => exact absurd trivial (passed b hafter)
    | start passed => exact absurd trivial (passed b (.inl hafter))
    | finish passed => exact absurd trivial (passed b (.inl hafter))
  | none =>
    cases hbefore : i.before with
    | some b =>
      obtain rfl : b = a := by simpa [hafter, hbefore] using hleading
      refine ⟨.before, fun content text result h => ?_⟩
      cases h with
      | after given => simp [hafter] at given
      | before _ given _ put => rwa [Option.some.inj (hbefore.symm.trans given)]
      | start passed => exact absurd trivial (passed b (.inr hbefore))
      | finish passed => exact absurd trivial (passed b (.inr hbefore))
    | none =>
      have hedge : i.edge = some a := by simpa [hafter, hbefore] using hleading
      exact absurd (hi.nonBlank_edge hedge) (not_nonBlank.mpr hblank)

/-- If the place that is given first is not blank, it is the one that counts. -/
theorem Puts.nonBlank_of_leading {a : String} (hleading : i.leading = some a) (ha : NonBlank a)
    (h : i.Puts (fun _ => True) content text result) : i.Puts NonBlank content text result := by
  rw [leading] at hleading
  cases h with
  | after given _ put =>
    rw [given, Option.some_or] at hleading
    obtain rfl := Option.some.inj hleading
    exact .after given ha put
  | before passed given _ put =>
    have hafter : i.after = none := Option.eq_none_iff_forall_ne_some.mpr fun b hb => passed b hb trivial
    rw [hafter, given, Option.none_or, Option.some_or] at hleading
    obtain rfl := Option.some.inj hleading
    exact .before (by simp [hafter]) given ha put
  | start passed given word => exact .start (fun b hb _ => passed b hb trivial) given word
  | finish passed given word => exact .finish (fun b hb _ => passed b hb trivial) given word

/-- Blanks hold no anchor that counts. -/
theorem Puts.eq_text_or_passed (h : i.Puts NonBlank content text result)
    (htext : isAllBlank text = true) : result = text ∨ ∀ a, i.Gives a → ¬ NonBlank a := by
  cases h with
  | after _ valid put => exact .inl (put.eq_text (not_occurs_of_nonBlank valid htext))
  | before _ _ valid put => exact .inl (put.eq_text (not_occurs_of_nonBlank valid htext))
  | start passed => exact .inr passed
  | finish passed => exact .inr passed

/-- Content that is put both next to an anchor and at the edge, on every text, is empty, unless the anchor is
empty and the edge is the start. -/
theorem eq_empty_or_of_edge {side : Side} {a : String} {run : String → String}
    (hput : ∀ text, PutNextTo side a content text (run text))
    (hedge : ∀ text, ∃ edge, i.edge = some edge ∧
      (lower (strip edge) = "start" ∧ run text = content ++ text ∨
        lower (strip edge) = "end" ∧ run text = text ++ content)) :
    content = "" ∨ a = "" ∧ ∃ edge, i.edge = some edge ∧ lower (strip edge) = "start" := by
  by_cases hempty : a = ""
  · subst hempty
    obtain ⟨edge, hgiven, ⟨hword, -⟩ | ⟨hword, -⟩⟩ := hedge ""
    · exact .inr ⟨rfl, edge, hgiven, hword⟩
    · refine .inl (eq_empty_of_append_comm fun text => ?_)
      obtain ⟨edge', hgiven', ⟨hword', -⟩ | ⟨-, hresult⟩⟩ := hedge text
      · obtain rfl := Option.some.inj (hgiven.symm.trans hgiven')
        rw [hword] at hword'
        exact absurd hword' (by decide)
      · rw [← (hput text).eq_of_empty_anchor, hresult]
  · have hnowhere := (hput "").eq_text (mt occurs_in_empty hempty)
    obtain ⟨edge, -, ⟨-, hresult⟩ | ⟨-, hresult⟩⟩ := hedge ""
    · exact .inl (by simpa [hnowhere] using hresult.symm)
    · exact .inl (by simpa [hnowhere] using hresult.symm)

/-- The first place that is given is where content belongs on every text exactly if there is no content or
the place counts. -/
theorem OneAnchor.forall_puts_iff (hi : i.OneAnchor) {run : String → String}
    (hrun : ∀ text, i.Puts (fun _ => True) content text (run text)) :
    (∀ text, i.Puts NonBlank content text (run text)) ↔ content = "" ∨ i.LeadCounts := by
  constructor
  · intro h
    obtain ⟨a, hleading⟩ := hi.exists_leading
    by_cases ha : NonBlank a
    · exact .inr (.inl ⟨a, hleading, ha⟩)
    have hblank := not_nonBlank.mp ha
    obtain ⟨side, hside⟩ := hi.exists_side hleading hblank
    have hput := fun text => hside content text (run text) (hrun text)
    rcases (h a).eq_text_or_passed hblank with hself | hpassed
    · have hlength := ((hput a).grows (occurs_self a)).length
      rw [hself] at hlength
      exact .inl (String.length_eq_zero_iff.mp (by omega))
    · rcases eq_empty_or_of_edge hput (fun text => (h text).eq_of_edge hpassed) with hempty | ⟨rfl, hstart⟩
      · exact .inl hempty
      · exact .inr (.inr ⟨hleading, hstart⟩)
  · rintro (rfl | ⟨a, hleading, ha⟩ | ⟨hleading, edge, hgiven, hword⟩) text
    · obtain ⟨result, hresult⟩ := hi.exists_puts "" text
      rw [(hrun text).eq_text_of_empty]
      rwa [hresult.eq_text_of_empty] at hresult
    · exact (hrun text).nonBlank_of_leading hleading ha
    · obtain ⟨side, hside⟩ := hi.exists_side hleading (by decide)
      rw [(hside content text (run text) (hrun text)).eq_of_empty_anchor]
      exact .start (fun a hgives ha => hi.unique.2 a edge hgives ha hgiven) hgiven hword

end Insertion

/-! ## Locations -/

section Locations

variable {locations : List PatternLocation}

theorem PatternLocation.OneAnchor.exists_gives {l : PatternLocation} (hl : l.OneAnchor) :
    ∃ a, l.Gives a ∧ NonBlank a := by
  obtain ⟨anchor, hmem, hanchor⟩ := List.countP_pos_iff.mp (hl ▸ Nat.one_pos)
  obtain ⟨a, rfl, ha⟩ := nonBlank_of_not_isBlankText hanchor
  simp only [List.mem_cons, List.not_mem_nil, or_false] at hmem
  exact ⟨a, hmem.imp Eq.symm Eq.symm, ha⟩

/-- Content is put at the first location whose anchor counts and occurs, on every text, exactly if there is no
content or all anchors count. A blank anchor occurs in itself, where no anchor that counts does. -/
theorem forall_putAtFirst_iff {content : String} :
    (∀ text, PutAtFirst NonBlank content text locations
        (Locator.insertAtFirst text locations content).value) ↔
      content = "" ∨ ∀ l ∈ locations, ∀ a, l.Gives a → NonBlank a := by
  constructor
  · intro h
    by_contra! hnot
    obtain ⟨hcontent, l, hl, a, hgives, ha⟩ := hnot
    have hblank := not_nonBlank.mp ha
    have hgrows := (putAtFirst_any content a locations).grows ⟨l, hl, a, hgives, trivial, occurs_self a⟩
    have hlength := hgrows.length
    rw [(h a).eq_text fun l' _ a' _ ha' => not_occurs_of_nonBlank ha' hblank] at hlength
    exact hcontent (String.length_eq_zero_iff.mp (by omega))
  · rintro (rfl | hall) text
    · rw [(putAtFirst_any "" text locations).eq_text_of_empty]
      exact putAtFirst_empty NonBlank text locations
    · exact putAtFirst_insertAtFirst hall

end Locations

/-! ## Documents -/

namespace RuleDocument

variable {d : RuleDocument} {p : Pass}

/-- What a pass does to a text for an insertion of a document whose turn it is: the insertion is the one
that is selected from its chain, or from the fallbacks of a smart insertion whose conditions do not hold. -/
inductive Applies (d : RuleDocument) (p : Pass) : Insertion → (String → Attempt String) → Prop
  | chain {c : Chain Insertion} {i : Insertion} (mem : c ∈ d.insertions)
      (selected : (p.selectInsertion 0 c.rules).outcome = .ok (some i)) :
      Applies d p i (p.applyInsertion c)
  | fallback {j : SmartInsertion} {i : Insertion} (mem : j ∈ d.smartInsertions)
      (unmet : p.meets j.conditions = false)
      (selected : (p.selectInsertion 1 j.fallbacks).outcome = .ok (some i)) :
      Applies d p i (p.applySmartInsertion j)

theorem mem_of_selectInsertion {depth : Nat} {rules : List Insertion} {i : Insertion}
    (h : (p.selectInsertion depth rules).outcome = .ok (some i)) : i ∈ rules :=
  List.mem_of_find?_eq_some (Pass.find?_eq_of_select (Attempt.result?_eq_some.mpr h))

theorem Applies.mem {i : Insertion} {apply : String → Attempt String} (h : d.Applies p i apply) :
    i ∈ d.insertionRules := by
  cases h with
  | chain mem selected =>
    exact List.mem_append_left _ (List.mem_flatMap.mpr ⟨_, mem, mem_of_selectInsertion selected⟩)
  | fallback mem _ selected =>
    exact List.mem_append_right _ (List.mem_flatMap.mpr ⟨_, mem, mem_of_selectInsertion selected⟩)

theorem Applies.outcome_eq {i : Insertion} {apply : String → Attempt String} (h : d.Applies p i apply)
    (text : String) : (apply text).outcome = (i.edit p text).outcome := by
  cases h with
  | chain _ selected =>
    rw [Pass.applyInsertion, Attempt.outcome_bind, selected]
    rfl
  | @fallback j _ _ unmet selected =>
    have hsome : j.fallbacks.isEmpty = false :=
      List.isEmpty_eq_false_iff.mpr (List.ne_nil_of_mem (mem_of_selectInsertion selected))
    simp only [Pass.applySmartInsertion, Attempt.outcome_bind, Pass.outcome_holds, unmet, hsome, ok_bind,
      Pass.outcome_noteRule, selected, Bool.false_eq_true, if_false]
    rfl

/-- **Content is put at the anchor of an insertion, unless a blank anchor comes before it.** Of a document
that has been read, every insertion has one place that is not blank, and every location one anchor. An
insertion whose turn it is puts its content there on every text exactly if the content is empty or the place
that is given first counts; and the locations of a smart insertion are searched for their anchors exactly if
the content is empty or none of the anchors that are given is blank. -/
theorem puts_anchor_iff {limit : Int} {source written : String}
    (hparse : (parse limit source written).outcome = .ok d) (hpartials : p.partials = d.partials) :
    (∀ i ∈ d.insertionRules, i.OneAnchor) ∧
    (∀ i apply, d.Applies p i apply →
      ((∀ text, ∃ result, (apply text).outcome = .ok result ∧
          i.Puts NonBlank (Partials.expanded i.content d.partials) text result) ↔
        Partials.expanded i.content d.partials = "" ∨ i.LeadCounts)) ∧
    ∀ ls ∈ d.locationLists, (∀ l ∈ ls, l.OneAnchor) ∧ ∀ content,
      ((∀ text, PutAtFirst NonBlank content text ls (Locator.insertAtFirst text ls content).value) ↔
        content = "" ∨ ∀ l ∈ ls, ∀ a, l.Gives a → NonBlank a) := by
  rw [outcome_parse] at hparse
  obtain ⟨-, -, -, -, -, hproblems⟩ := ofText_eq_ok_iff.mp hparse
  obtain ⟨hinsertions, hlocations⟩ := oneAnchor_of_problems hproblems
  refine ⟨hinsertions, fun i apply happlies => ?_,
    fun ls hls => ⟨hlocations ls hls, fun content => forall_putAtFirst_iff⟩⟩
  have hi := hinsertions i happlies.mem
  choose run hrun hputs using hi.exists_outcome_puts p
  simp only [happlies.outcome_eq, hrun, Except.ok.injEq, exists_eq_left']
  rw [← hpartials]
  exact hi.forall_puts_iff hputs

/-- A document with an insertion and a location that give an empty anchor before the one that counts. -/
def blankAnchors : String :=
  "insertions:\n- after: ''\n  before: b\n  content: X\nsmartInsertions:\n- findInsertionPoint:\n" ++
    "    patterns:\n    - after: ''\n      before: b\n  content: Y\n"

/-- A pass with the partials of a document. -/
def passFor (d : RuleDocument) : Pass := ⟨"t", 8, ⟨none, some "ab", [], [], .markers⟩, d.partials⟩

/-- The document is accepted, and the turn of its insertion comes in every context. -/
theorem exists_blankAnchors : ∃ d, (parse 8 "<string>" blankAnchors).outcome = .ok d ∧
    d.partials = [] ∧ ∃ c, c.first.after = some "" ∧ c.first.before = some "b" ∧ c.first.content = "X" ∧
      d.Applies d.passFor c.first (d.passFor.applyInsertion c) := by
  obtain ⟨d, hd, hholds⟩ : ∃ d, (parse 8 "<string>" blankAnchors).outcome = .ok d ∧
      (d.partials.isEmpty && d.insertions.any fun c => c.first.after == some "" &&
        c.first.before == some "b" && c.first.content == "X" && c.first.conditions.isNone &&
        c.fallbacks.isEmpty) = true :=
    exists_parse_of_any (by decide +kernel)
  simp only [Bool.and_eq_true, List.any_eq_true, beq_iff_eq, List.isEmpty_iff,
    Option.isNone_iff_eq_none] at hholds
  obtain ⟨hpartials, c, hc, ⟨⟨⟨hafter, hbefore⟩, hcontent⟩, hconditions⟩, hfallbacks⟩ := hholds
  refine ⟨d, hd, hpartials, c, hafter, hbefore, hcontent, .chain hc ?_⟩
  have hrules : c.rules = [c.first] := by rw [Chain.rules, hfallbacks]
  rw [Pass.selectInsertion, hrules, Pass.outcome_select,
    if_neg (Pass.not_overruns (by simp [passFor])), List.find?_cons, hconditions]
  rfl

theorem puts_anchor_blankAnchors_iff : ∃ d, (parse 8 "<string>" blankAnchors).outcome = .ok d ∧
    (∀ i ∈ d.insertionRules, i.OneAnchor) ∧
    (∀ i apply, d.Applies d.passFor i apply →
      ((∀ text, ∃ result, (apply text).outcome = .ok result ∧
          i.Puts NonBlank (Partials.expanded i.content d.partials) text result) ↔
        Partials.expanded i.content d.partials = "" ∨ i.LeadCounts)) ∧
    ∀ ls ∈ d.locationLists, (∀ l ∈ ls, l.OneAnchor) ∧ ∀ content,
      ((∀ text, PutAtFirst NonBlank content text ls (Locator.insertAtFirst text ls content).value) ↔
        content = "" ∨ ∀ l ∈ ls, ∀ a, l.Gives a → NonBlank a) := by
  obtain ⟨d, hd, -⟩ := exists_blankAnchors
  exact ⟨d, hd, puts_anchor_iff hd rfl⟩

/-- The content of the insertion is not put before its anchor, but at the start. -/
theorem not_puts_blankAnchors :
    ¬ ∀ d, (parse 8 "<string>" blankAnchors).outcome = .ok d → ∀ i apply, d.Applies d.passFor i apply →
      ∃ result, (apply "ab").outcome = .ok result ∧
        i.Puts NonBlank (Partials.expanded i.content d.partials) "ab" result := by
  intro h
  obtain ⟨d, hd, hpartials, c, hafter, hbefore, hcontent, happlies⟩ := exists_blankAnchors
  obtain ⟨result, hresult, hputs⟩ := h d hd c.first _ happlies
  have hedit : (c.first.edit d.passFor "ab").outcome = .ok "Xab" := by
    simp only [Insertion.edit, hafter, hcontent, Attempt.outcome_bind, Pass.outcome_expand, ok_bind,
      passFor, hpartials]
    rfl
  rw [happlies.outcome_eq, hedit] at hresult
  obtain rfl := Except.ok.inj hresult
  rw [hcontent, hpartials] at hputs
  have hput := hputs.putNextTo_before (by simp [hafter, NonBlank, isAllBlank]) hbefore rfl
  have hvalue := hput.unique (putNextTo_insertBefore ..)
  exact absurd hvalue (by decide)

end RuleDocument

end TemplateRules
