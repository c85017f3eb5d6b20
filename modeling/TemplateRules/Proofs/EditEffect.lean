import TemplateRules.Proofs.NamedPoints
import TemplateRules.Proofs.Plan
import TemplateRules.Proofs.Rewriting

/-!
# What edits do to a text

An edit looks for something in the text that it is made on: the text or the pattern to replace, an anchor,
a candidate, a location. An edit that finds nothing leaves the text alone. An edit that puts content into a
text and finds the place for it takes nothing away, and the text grows by the content.

## Main definitions

* `Pattern.MatchesIn`, `Pattern.FoundIn`: a pattern, or what a source writes, matches somewhere in a text
* `PrimitiveEdit.Finds`: an edit finds what it looks for
* `PrimitiveEdit.inserted`: the content of an edit that puts content into the text
* `Context.due`: the edits that applying a document makes

## Main results

* `PrimitiveEdit.run_of_not_finds`: an edit that finds nothing leaves the text alone
* `PrimitiveEdit.grows_of_finds`: content that finds its place is put there whole
* `Engine.foldlM_due_of_apply`: what is returned for a template is the template after the edits that are due
-/

namespace TemplateRules

open Text

/-! ## Searches that find nothing -/

theorem Edit.value_replaceAll_of_not_occurs {text find : String} (replacement : String)
    (h : ¬ (find ≠ "" ∧ Occurs find text)) : (replaceAll text find replacement).value = text := by
  by_cases hempty : find = ""
  · subst hempty
    rfl
  · have hcut : IsCut find text [] text := isCut_nil_iff.mpr ⟨rfl, fun hoccurs => h ⟨hempty, hoccurs⟩⟩
    rw [value_replaceAll_of_isCut hempty hcut, List.nil_append, String.intercalate_singleton]

theorem Locator.value_replaceAny_of_not_occurs {text : String} {candidates : List String}
    (replacement : String) (h : ¬ ∃ c ∈ candidates, c ≠ "" ∧ Occurs c text) :
    (replaceAny text candidates replacement).value = text := by
  rw [replaceAny, firstPresent?_eq_none_iff.mpr h]
  rfl

namespace Pattern

/-- A pattern matches at some position of a text. -/
def MatchesIn (p : Pattern) (text : String) : Prop :=
  ∃ position ≤ text.length, (p.matchAt? text.toList.toArray false position).isSome = true

theorem firstFrom?_isSome_iff {p : Pattern} {subject : Array Char} {count position : Nat} :
    (p.firstFrom? subject count position).isSome = true ↔
      ∃ q, position ≤ q ∧ q < position + count ∧ (p.matchAt? subject false q).isSome = true := by
  induction count generalizing position with
  | zero =>
    simp only [firstFrom?, Option.isSome_none, Bool.false_eq_true, false_iff, not_exists, not_and]
    omega
  | succ count ih =>
    rw [firstFrom?]
    cases hmatch : p.matchAt? subject false position with
    | some m => exact iff_of_true rfl ⟨position, le_rfl, by omega, by simp [hmatch]⟩
    | none =>
      rw [ih]
      constructor
      · rintro ⟨q, hle, hlt, hq⟩
        exact ⟨q, by omega, by omega, hq⟩
      · rintro ⟨q, hle, hlt, hq⟩
        have hne : q ≠ position := by
          rintro rfl
          simp [hmatch] at hq
        exact ⟨q, by omega, by omega, hq⟩

theorem occursIn_iff {p : Pattern} {text : String} :
    p.occursIn text.toList = true ↔ p.MatchesIn text := by
  have hfirst : p.nextMatch? text.toList.toArray false 0 =
      p.firstFrom? text.toList.toArray (text.length + 1) 0 := by
    rw [nextMatch?, firstFrom?, List.size_toArray, String.length_toList, Nat.sub_zero]
  rw [occursIn, hfirst, firstFrom?_isSome_iff, MatchesIn]
  refine exists_congr fun q => ?_
  rw [← and_assoc]
  exact and_congr_left fun _ => by omega

/-- The pattern that a source writes, if it can be read, matches somewhere in a text. -/
def FoundIn (source text : String) : Prop := ∃ p, compile source = .ok p ∧ p.MatchesIn text

end Pattern

/-! ## What edits find -/

namespace PrimitiveEdit

/-- An edit finds in a text what it looks for. Empty texts are not replaced, and a place that is an edge is
always there. -/
def Finds (text : String) : PrimitiveEdit → Prop
  | .replaceAll find _ => find ≠ "" ∧ Occurs find text
  | .replaceMatches pattern _ => Pattern.FoundIn pattern text
  | .replaceAny candidates _ => ∃ c ∈ candidates, c ≠ "" ∧ Occurs c text
  | .replaceAtPoint point _ =>
    ∃ candidates, Locator.points.lookup point = some candidates ∧ ∃ c ∈ candidates, Occurs c text
  | .insertAfter anchor _ => Occurs anchor text
  | .insertBefore anchor _ => Occurs anchor text
  | .insertAtEdge edge _ => lower (strip edge) = "start" ∨ lower (strip edge) = "end"
  | .insertAtPoint point _ => point = Locator.startOfFile ∨ point = Locator.endOfFile ∨
    ∃ candidates, Locator.points.lookup point = some candidates ∧ ∃ c ∈ candidates, Occurs c text
  | .insertAtFirst locations _ => ∃ l ∈ locations, ∃ anchor, l.Gives anchor ∧ Occurs anchor text
  | .impossible => False

/-- The content that an edit puts into the text, if that is what it does. -/
def inserted : PrimitiveEdit → Option String
  | .insertAfter _ content => some content
  | .insertBefore _ content => some content
  | .insertAtEdge _ content => some content
  | .insertAtPoint _ content => some content
  | .insertAtFirst _ content => some content
  | _ => none

end PrimitiveEdit

/-! ## Edits that find nothing -/

/-- The matches of a pattern are replaced only if the pattern can be read. -/
theorem Edit.exists_compile_of_replaceMatches {text pattern replacement next : String}
    (h : (replaceMatches text pattern replacement).result? = some next) :
    ∃ p, Pattern.compile pattern = .ok p := by
  rw [replaceMatches, Attempt.result?_bind] at h
  obtain ⟨p, hp, -⟩ := Option.bind_eq_some_iff.mp h
  rw [Attempt.result?_eq_some, Attempt.outcome_liftM, compilePattern] at hp
  split at hp
  · rename_i p' hcompile
    exact ⟨p', hcompile⟩
  · simp at hp
  · simp at hp

theorem Locator.value_replaceAtPoint_of_not_finds {text point : String} (replacement : String)
    (h : ¬ (PrimitiveEdit.replaceAtPoint point replacement).Finds text) :
    (replaceAtPoint text point replacement).value = text := by
  rw [replaceAtPoint]
  cases hlookup : points.lookup point with
  | none => rfl
  | some candidates =>
    cases candidates with
    | nil => rfl
    | cons first rest =>
      refine value_replaceAny_of_not_occurs replacement ?_
      rintro ⟨c, hc, -, hoccurs⟩
      exact h ⟨_, hlookup, c, hc, hoccurs⟩

theorem Locator.lookup_startOfFile : points.lookup startOfFile = some [] := by decide

theorem Locator.lookup_endOfFile : points.lookup endOfFile = some [] := by decide

theorem Locator.value_insertAtPoint_of_not_finds {text point : String} (content : String)
    (h : ¬ (PrimitiveEdit.insertAtPoint point content).Finds text) :
    (insertAtPoint text point content).value = text := by
  cases hknown : isKnown point with
  | false => rw [insertAtPoint_of_not_isKnown hknown]
  | true =>
    have hput : PutAtPoint point content text (insertAtPoint text point content).value :=
      putAtPoint_insertAtPoint hknown
    generalize (insertAtPoint text point content).value = result at hput
    cases hput with
    | start named => exact absurd (.inl named) h
    | finish named => exact absurd (.inr (.inl named)) h
    | present candidates _ occurs _ =>
      exact absurd (.inr (.inr ⟨_, candidates, _, by simp, occurs⟩)) h
    | absent => rfl

namespace PrimitiveEdit

/-- An edit that finds nothing leaves the text alone. -/
theorem run_of_not_finds {e : PrimitiveEdit} {text next : String} (h : ¬ e.Finds text)
    (hrun : e.run text = some next) : next = text := by
  cases e with
  | replaceAll find replacement =>
    rw [← Option.some.inj hrun, Edit.value_replaceAll_of_not_occurs replacement h]
  | replaceMatches pattern replacement =>
    obtain ⟨p, hcompile⟩ := Edit.exists_compile_of_replaceMatches hrun
    have hmatch : p.occursIn text.toList = false := Bool.eq_false_iff.mpr fun hin =>
      h ⟨p, hcompile, Pattern.occursIn_iff.mp hin⟩
    have hout := Attempt.result?_eq_some.mp hrun
    rw [Edit.outcome_replaceMatches hcompile, hmatch] at hout
    exact (Except.ok.inj hout).symm
  | replaceAny candidates replacement =>
    rw [← Option.some.inj hrun, Locator.value_replaceAny_of_not_occurs replacement h]
  | replaceAtPoint point replacement =>
    rw [← Option.some.inj hrun, Locator.value_replaceAtPoint_of_not_finds replacement h]
  | insertAfter anchor content =>
    rw [← Option.some.inj hrun, (putNextTo_insertAfter anchor content text).eq_text h]
  | insertBefore anchor content =>
    rw [← Option.some.inj hrun, (putNextTo_insertBefore anchor content text).eq_text h]
  | insertAtEdge edge content =>
    rw [Finds, not_or] at h
    rw [run, Insertion.atEdge, if_neg h.1, if_neg h.2] at hrun
    exact (Option.some.inj hrun).symm
  | insertAtPoint point content =>
    rw [← Option.some.inj hrun, Locator.value_insertAtPoint_of_not_finds content h]
  | insertAtFirst locations content =>
    have hnowhere : ∀ l ∈ locations, ∀ a, l.Gives a → True → ¬ Occurs a text := fun l hl a ha _ hoccurs =>
      h ⟨l, hl, a, ha, hoccurs⟩
    rw [← Option.some.inj hrun, (putAtFirst_any content text locations).eq_text hnowhere]
  | impossible => simp [run] at hrun

/-- Edits that find nothing leave the text alone, one after the other. -/
theorem foldlM_run_of_not_finds {es : List PrimitiveEdit} {text result : String}
    (h : ∀ e ∈ es, ¬ e.Finds text)
    (hrun : es.foldlM (fun text edit => edit.run text) text = some result) : result = text := by
  induction es with
  | nil => exact (Option.some.inj hrun).symm
  | cons e es ih =>
    obtain ⟨he, hes⟩ := List.forall_mem_cons.mp h
    rw [List.foldlM_cons] at hrun
    obtain ⟨next, hnext, hrest⟩ := Option.bind_eq_some_iff.mp hrun
    obtain rfl := run_of_not_finds he hnext
    exact ih hes hrest

end PrimitiveEdit

/-! ## Edits that put content into a text -/

theorem PutAtPoint.grows {point content text result : String}
    (h : PutAtPoint point content text result)
    (hfinds : (PrimitiveEdit.insertAtPoint point content).Finds text) : Grows content text result := by
  cases h with
  | start => exact grows_append_left content text
  | finish => exact grows_append_right content text
  | present _ _ occurs put => exact put.grows occurs
  | absent candidates nowhere =>
    rcases hfinds with rfl | rfl | ⟨_, hlookup, c, hc, hoccurs⟩
    · simp [Locator.lookup_startOfFile] at candidates
    · simp [Locator.lookup_endOfFile] at candidates
    · obtain rfl := Option.some.inj (candidates.symm.trans hlookup)
      exact absurd hoccurs (nowhere c hc)

namespace PrimitiveEdit

/-- A point at which an edit finds its place is one of the table. -/
theorem isKnown_of_finds {point content text : String} (h : (insertAtPoint point content).Finds text) :
    Locator.isKnown point = true := by
  rcases h with rfl | rfl | ⟨candidates, hlookup, -⟩
  · decide
  · decide
  · exact Locator.isKnown_iff.mpr ⟨candidates, hlookup⟩

/-- Content that finds its place is put there whole, and nothing is taken away. -/
theorem grows_of_finds {e : PrimitiveEdit} {content text next : String}
    (hinserted : e.inserted = some content) (hfinds : e.Finds text) (hrun : e.run text = some next) :
    Grows content text next := by
  cases e with
  | insertAfter anchor _ =>
    obtain rfl := Option.some.inj hinserted
    rw [← Option.some.inj hrun]
    exact (putNextTo_insertAfter anchor _ text).grows hfinds
  | insertBefore anchor _ =>
    obtain rfl := Option.some.inj hinserted
    rw [← Option.some.inj hrun]
    exact (putNextTo_insertBefore anchor _ text).grows hfinds
  | insertAtEdge edge _ =>
    obtain rfl := Option.some.inj hinserted
    rw [run, Insertion.atEdge] at hrun
    by_cases hstart : lower (strip edge) = "start"
    · rw [if_pos hstart] at hrun
      rw [← Option.some.inj hrun]
      exact grows_append_left _ text
    · rw [if_neg hstart, if_pos (hfinds.resolve_left hstart)] at hrun
      rw [← Option.some.inj hrun]
      exact grows_append_right _ text
  | insertAtPoint point _ =>
    obtain rfl := Option.some.inj hinserted
    rw [← Option.some.inj hrun]
    exact (Locator.putAtPoint_insertAtPoint (isKnown_of_finds hfinds)).grows hfinds
  | insertAtFirst locations _ =>
    obtain rfl := Option.some.inj hinserted
    rw [← Option.some.inj hrun]
    obtain ⟨l, hl, a, ha, hoccurs⟩ := hfinds
    exact (putAtFirst_any _ text locations).grows ⟨l, hl, a, ha, trivial, hoccurs⟩
  | replaceAll | replaceMatches | replaceAny | replaceAtPoint | impossible => simp [inserted] at hinserted

end PrimitiveEdit

/-! ## Edits of a document -/

/-- Every edit of a document is that of one of its rules. -/
theorem RuleDocument.rule_of_mem_chains {d : RuleDocument} {chain : List GuardedEdit} {g : GuardedEdit}
    (hchain : chain ∈ d.chains) (hg : g ∈ chain) :
    (∃ c ∈ d.replacements, ∃ r ∈ c.rules, g = r.guarded d.partials) ∨
      (∃ r ∈ d.smartReplacements, g = r.guarded d.partials) ∨
      (∃ i ∈ d.insertionRules, g = i.guarded d.partials) ∨
      ∃ j ∈ d.smartInsertions, g = j.guarded d.partials := by
  simp only [chains, List.mem_append, List.mem_map] at hchain
  obtain ((⟨c, hc, rfl⟩ | ⟨r, hr, rfl⟩) | ⟨c, hc, rfl⟩) | ⟨j, hj, rfl⟩ := hchain
  · obtain ⟨r, hr, rfl⟩ := List.mem_map.mp hg
    exact .inl ⟨c, hc, r, hr, rfl⟩
  · exact .inr (.inl ⟨r, hr, List.mem_singleton.mp hg⟩)
  · obtain ⟨i, hi, rfl⟩ := List.mem_map.mp hg
    have hmem : i ∈ d.insertionRules := List.mem_append_left _ (List.mem_flatMap.mpr ⟨c, hc, hi⟩)
    exact .inr (.inr (.inl ⟨i, hmem, rfl⟩))
  · rcases List.mem_cons.mp hg with rfl | hg
    · exact .inr (.inr (.inr ⟨j, hj, rfl⟩))
    · obtain ⟨i, hi, rfl⟩ := List.mem_map.mp hg
      have hmem : i ∈ d.insertionRules := List.mem_append_right _ (List.mem_flatMap.mpr ⟨j, hj, hi⟩)
      exact .inr (.inr (.inl ⟨i, hmem, rfl⟩))

namespace Context

variable {x : Context} {d : RuleDocument}

/-- The edit of a chain is that of a rule in it. -/
theorem exists_mem_of_selected {chain : List GuardedEdit} {e : PrimitiveEdit}
    (h : x.selected chain = some e) : ∃ g ∈ chain, g.edit = e := by
  obtain ⟨g, hg, rfl⟩ := Option.map_eq_some_iff.mp h
  exact ⟨g, List.mem_of_find?_eq_some hg, rfl⟩

/-- The edits that applying a document makes: those of the plan, or none if the conditions of the document
do not hold. -/
def due (x : Context) (d : RuleDocument) : List PrimitiveEdit :=
  if x.admits d.conditions then x.plan d else []

theorem exists_mem_of_due {e : PrimitiveEdit} (h : e ∈ x.due d) :
    ∃ chain ∈ d.chains, ∃ g ∈ chain, g.edit = e := by
  rw [due] at h
  split at h
  · obtain ⟨chain, hchain, hselected⟩ := List.mem_filterMap.mp h
    exact ⟨chain, hchain, exists_mem_of_selected hselected⟩
  · simp at h

/-- Chains whose edits find nothing leave the text alone. -/
theorem foldlM_runChain_of_not_finds {chains : List (List GuardedEdit)} {text result : String}
    (h : ∀ chain ∈ chains, ∀ g ∈ chain, ¬ g.edit.Finds text)
    (hrun : chains.foldlM x.runChain text = some result) : result = text := by
  rw [← foldlM_run_filterMap] at hrun
  refine PrimitiveEdit.foldlM_run_of_not_finds (fun e he => ?_) hrun
  obtain ⟨chain, hchain, hselected⟩ := List.mem_filterMap.mp he
  obtain ⟨g, hg, rfl⟩ := exists_mem_of_selected hselected
  exact h chain hchain g hg

end Context

/-- Applying a document, where nothing is kept yet, makes the edits that are due. -/
theorem Engine.foldlM_due_of_apply {limit : Int} {template text : String} {d : RuleDocument} {x : Context}
    {given : Option String} {kept : Results}
    (h : (apply limit .empty template (some d) x given).outcome = .ok (text, kept)) :
    (x.due d).foldlM (fun text edit => edit.run text) template = some text := by
  rw [outcome_apply_empty] at h
  obtain ⟨text', hcompute, hkept⟩ := map_eq_ok.mp h
  obtain rfl : text' = text := (Prod.mk.inj hkept).1
  have hpass := Attempt.result?_eq_some.mpr hcompute
  rw [compute, result?_run] at hpass
  obtain ⟨hidle, hplan⟩ := Pass.foldlM_plan_of_applyDocument rfl hpass
  rw [Context.due]
  split
  · rename_i hadmits
    exact hplan hadmits
  · rename_i hadmits
    rw [hidle (Bool.eq_false_iff.mpr hadmits)]
    rfl

end TemplateRules
