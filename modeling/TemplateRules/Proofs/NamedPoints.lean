import TemplateRules.Proofs.Anchors
import TemplateRules.Proofs.ConditionRecords

/-!
# The place of a smart insertion

A smart insertion is accepted if it has a point that is not blank and has, without the blanks at its ends,
a name of the table, or else locations. A pass takes the point as it is written: where blanks stand around
its name, or nothing else is there, it does not find the name in the table, and all that it does is to warn.

## Main definitions

* `PutAtPoint`: content at a named point
* `SmartInsertion.OnePlace`: what validation wants of a smart insertion
* `SmartInsertion.Puts`: content at the place that validation has recognized
* `SmartInsertion.Recognized`: the point, if there is one, is written as the table has it

## Main results

* `putAtPoint_insertAtPoint`: the points of the table are found as they are written there
* `RuleDocument.puts_place_iff`: the smart insertions of accepted documents that are put at their place
-/

namespace TemplateRules

open Text

/-! ## Named points -/

/-- Content put at a named point: before or after everything, or behind the first candidate of the point
that occurs, or the text as it is if none does. -/
inductive PutAtPoint (point content text : String) : String → Prop
  | start (named : point = Locator.startOfFile) : PutAtPoint point content text (content ++ text)
  | finish (named : point = Locator.endOfFile) : PutAtPoint point content text (text ++ content)
  | present {before after : List String} {anchor result : String}
      (candidates : Locator.points.lookup point = some (before ++ anchor :: after))
      (first : ∀ c ∈ before, ¬ Occurs c text) (occurs : Occurs anchor text)
      (put : PutNextTo .after anchor content text result) : PutAtPoint point content text result
  | absent {first : String} {rest : List String}
      (candidates : Locator.points.lookup point = some (first :: rest))
      (nowhere : ∀ c ∈ first :: rest, ¬ Occurs c text) : PutAtPoint point content text text

namespace Locator

variable {point content text : String} {candidates : List String}

theorem isKnown_iff : isKnown point = true ↔ ∃ candidates, points.lookup point = some candidates := by
  rw [← Option.isSome_iff_exists, List.lookup_isSome_iff, isKnown, pointNames, List.contains_iff_mem,
    List.mem_map]
  simp only [beq_iff_eq]
  exact exists_congr fun e => and_congr_right fun _ => eq_comm

theorem mem_points_of_lookup (h : points.lookup point = some candidates) :
    (point, candidates) ∈ points := by
  obtain ⟨before, after, hsplit, -⟩ := List.lookup_eq_some_iff.mp h
  simp [hsplit]

/-- The names of the table are written without blanks at their ends and are not blank. -/
theorem strip_of_isKnown (h : isKnown point = true) : strip point = point ∧ NonBlank point := by
  have hall : ∀ name ∈ pointNames, strip name = name ∧ isAllBlank name = false := by decide +kernel
  exact hall point (List.contains_iff_mem.mp h)

theorem candidate_ne_empty (h : points.lookup point = some candidates) : ∀ c ∈ candidates, c ≠ "" := by
  have hall : ∀ e ∈ points, ∀ c ∈ e.2, c ≠ "" := by decide
  exact hall _ (mem_points_of_lookup h)

/-- Every point but the two edges has a candidate. -/
theorem candidates_ne_nil (h : points.lookup point = some candidates) (hstart : point ≠ startOfFile)
    (hend : point ≠ endOfFile) : candidates ≠ [] := by
  have hall : ∀ e ∈ points, e.1 ≠ startOfFile → e.1 ≠ endOfFile → e.2 ≠ [] := by decide
  exact hall _ (mem_points_of_lookup h) hstart hend

theorem firstPresent?_eq_some_iff {anchor : String} : firstPresent? text candidates = some anchor ↔
    ∃ before after, candidates = before ++ anchor :: after ∧ (anchor ≠ "" ∧ Occurs anchor text) ∧
      ∀ c ∈ before, ¬ (c ≠ "" ∧ Occurs c text) := by
  have hcounts : ∀ c, (!c.isEmpty && contains text c) = true ↔ c ≠ "" ∧ Occurs c text := by
    simp [contains_iff]
  simp only [firstPresent?, List.find?_eq_some_iff_append, Bool.not_eq_true', Bool.eq_false_iff, ne_eq, hcounts]
  constructor
  · rintro ⟨hanchor, before, after, hsplit, hbefore⟩
    exact ⟨before, after, hsplit, hanchor, hbefore⟩
  · rintro ⟨before, after, hsplit, hanchor, hbefore⟩
    exact ⟨hanchor, before, after, hsplit, hbefore⟩

theorem firstPresent?_eq_some (hne : ∀ c ∈ candidates, c ≠ "") {anchor : String}
    (h : firstPresent? text candidates = some anchor) :
    ∃ before after, candidates = before ++ anchor :: after ∧ (∀ c ∈ before, ¬ Occurs c text) ∧
      Occurs anchor text := by
  obtain ⟨before, after, hsplit, ⟨-, hoccurs⟩, hbefore⟩ := firstPresent?_eq_some_iff.mp h
  exact ⟨before, after, hsplit, fun c hc hin => hbefore c hc ⟨hne c (by simp [hsplit, hc]), hin⟩, hoccurs⟩

theorem firstPresent?_eq_none_iff :
    firstPresent? text candidates = none ↔ ¬ ∃ c ∈ candidates, c ≠ "" ∧ Occurs c text := by
  simp [firstPresent?, contains_iff]

theorem firstPresent?_eq_none (hne : ∀ c ∈ candidates, c ≠ "")
    (h : firstPresent? text candidates = none) : ∀ c ∈ candidates, ¬ Occurs c text :=
  fun c hc hoccurs => firstPresent?_eq_none_iff.mp h ⟨c, hc, hne c hc, hoccurs⟩

/-- The points of the table are found as they are written there. -/
theorem putAtPoint_insertAtPoint (h : isKnown point = true) :
    PutAtPoint point content text (insertAtPoint text point content).value := by
  obtain ⟨candidates, hlookup⟩ := isKnown_iff.mp h
  have hne := candidate_ne_empty hlookup
  rw [insertAtPoint]
  split
  · rename_i hstart
    exact .start hstart
  · split
    · rename_i hend
      exact .finish hend
    · rename_i hstart hend
      simp only [hlookup]
      cases hfirst : firstPresent? text candidates with
      | none =>
        obtain ⟨first, rest, rfl⟩ := List.exists_cons_of_ne_nil (candidates_ne_nil hlookup hstart hend)
        exact .absent hlookup (firstPresent?_eq_none hne hfirst)
      | some anchor =>
        obtain ⟨before, after, rfl, hbefore, hoccurs⟩ := firstPresent?_eq_some hne hfirst
        exact .present hlookup hbefore hoccurs (putNextTo_insertAfter ..)

/-- At a point that is not in the table nothing is inserted, and a warning is left. -/
theorem insertAtPoint_of_not_isKnown (h : isKnown point = false) :
    insertAtPoint text point content =
      ⟨text, [⟨.warning, .locators, "Unknown semantic insertion point: " ++ point⟩]⟩ := by
  have hstart : point ≠ startOfFile := by
    rintro rfl
    exact absurd h (by decide)
  have hend : point ≠ endOfFile := by
    rintro rfl
    exact absurd h (by decide)
  have hlookup : points.lookup point = none := by
    by_contra hsome
    rw [isKnown_iff.mpr (Option.ne_none_iff_exists'.mp hsome)] at h
    exact Bool.noConfusion h
  rw [insertAtPoint, if_neg hstart, if_neg hend, hlookup]
  rfl

end Locator

namespace PutAtPoint

variable {point content text result : String}

theorem eq_text_of_empty (h : PutAtPoint point "" text result) : result = text := by
  cases h with
  | start => exact String.empty_append
  | finish => exact String.append_empty
  | present _ _ _ put => exact put.eq_text_of_empty
  | absent => rfl

theorem eq_of_start (h : PutAtPoint Locator.startOfFile content text result) :
    result = content ++ text := by
  cases h with
  | start => rfl
  | finish named => exact absurd named (by decide)
  | present candidates => simp [Locator.points] at candidates
  | absent candidates => simp [Locator.points] at candidates

/-- At every point of the table there is a text with room for the whole content. -/
theorem exists_room (h : Locator.isKnown point = true) : ∃ text, ∀ content result,
    PutAtPoint point content text result → result.length = text.length + content.length := by
  obtain ⟨candidates, hlookup⟩ := Locator.isKnown_iff.mp h
  cases candidates with
  | nil =>
    refine ⟨"", fun content result hput => ?_⟩
    cases hput with
    | start => simp
    | finish => simp
    | present hcandidates => simp [hlookup] at hcandidates
    | absent hcandidates => simp [hlookup] at hcandidates
  | cons first rest =>
    refine ⟨first, fun content result hput => ?_⟩
    cases hput with
    | start => rw [String.length_append, Nat.add_comm]
    | finish => exact String.length_append ..
    | present _ _ occurs put => exact (put.grows occurs).length
    | absent hcandidates nowhere =>
      rw [hlookup, Option.some.injEq] at hcandidates
      exact absurd (occurs_self first) (nowhere first (by simp [← hcandidates]))

end PutAtPoint

/-! ## Warnings -/

namespace Traced

variable {α β : Type}

/-- Work that leaves no warning of the locators. -/
def Finds (t : Traced α) : Prop := ∀ r ∈ t.records, r.level = .warning → r.channel ≠ .locators

theorem finds_pure (a : α) : (pure a : Traced α).Finds := by simp [Finds]

theorem finds_note {level : Level} {channel : Channel} (h : level = .warning → channel ≠ .locators)
    (text : String) : (note level channel text).Finds := by simpa [Finds, note] using h

theorem Finds.bind {x : Traced α} {f : α → Traced β} (hx : x.Finds) (hf : (f x.value).Finds) :
    (x >>= f).Finds := fun r hr => (List.mem_append.mp hr).elim (hx r) (hf r)

end Traced

theorem Attempt.records_lift {α : Type} (t : Traced α) : (ExceptT.lift t : Attempt α).run.records = t.records :=
  List.append_nil t.records

theorem Attempt.records_lift_bind {α β : Type} (t : Traced α) (f : α → Attempt β) :
    (ExceptT.lift t >>= f : Attempt β).run.records = t.records ++ (f t.value).run.records := by
  rw [ExceptT.run_bind, Traced.records_bind]
  exact congrArg (· ++ _) (Attempt.records_lift t)

open Traced (Finds finds_pure finds_note)

section Records

variable {text content : String}

/-- What the expansion of partials warns of is not a place. -/
theorem Partials.finds_expand (content : String) (partials : Table String) :
    (Partials.expand content partials).Finds := by
  intro r hr
  rw [Partials.expand] at hr
  split at hr
  · simp at hr
  · obtain ⟨s, -, hs⟩ := List.mem_filterMap.mp hr
    cases s with
    | char c => simp [Partials.Segment.record?] at hs
    | marker inside =>
      simp only [Partials.Segment.record?] at hs
      split at hs <;> simp [← Option.some.inj hs]

theorem Edit.finds_insertAfter (text anchor content : String) :
    (Edit.insertAfter text anchor content).Finds := by
  rw [Edit.insertAfter]
  split
  · exact finds_pure _
  · exact (finds_note (by simp) _).bind (finds_pure _)

theorem Edit.finds_insertBefore (text anchor content : String) :
    (Edit.insertBefore text anchor content).Finds := by
  rw [Edit.insertBefore]
  split
  · exact finds_pure _
  · exact (finds_note (by simp) _).bind (finds_pure _)

theorem Locator.finds_noteSearch (text : String) : (noteSearch text).Finds := finds_note (by simp) text

/-- At a point of the table there is nothing to warn of. -/
theorem Locator.finds_insertAtPoint {point : String} (h : isKnown point = true) :
    (insertAtPoint text point content).Finds := by
  obtain ⟨candidates, hlookup⟩ := isKnown_iff.mp h
  rw [insertAtPoint]
  split
  · exact finds_pure _
  · split
    · exact finds_pure _
    · simp only [hlookup]
      split
      · exact (finds_noteSearch _).bind (finds_pure _)
      · exact (finds_noteSearch _).bind (Edit.finds_insertAfter _ _ _)

theorem Locator.finds_insertAtFirst (text content : String) (locations : List PatternLocation) :
    (insertAtFirst text locations content).Finds := by
  induction locations with
  | nil => exact (finds_noteSearch _).bind (finds_pure _)
  | cons location rest ih =>
    rw [insertAtFirst]
    split
    · exact (finds_noteSearch _).bind (Edit.finds_insertAfter _ _ _)
    · exact (finds_noteSearch _).bind (Edit.finds_insertBefore _ _ _)
    · exact ih

end Records

/-! ## Smart insertions -/

namespace SmartInsertion

variable {j : SmartInsertion} {p : Pass} {content text result : String}

/-- Validation wants one place, a point whose name is known once the blanks at its ends are gone, and
locations with one anchor each. -/
structure OnePlace (j : SmartInsertion) : Prop where
  one : [!isBlankText j.point, j.locations.isSome].countP id = 1
  point : ∀ name, j.point = some name → NonBlank name → Locator.isKnown (strip name) = true
  locations : ∀ ls, j.locations = some ls → ls ≠ [] ∧ ∀ l ∈ ls, l.OneAnchor

/-- Content put at the place that validation has recognized: at the point without the blanks at its ends,
or at the first location with an anchor that occurs if the point is absent or blank. -/
inductive Puts (j : SmartInsertion) (content text : String) : String → Prop
  | point {name result : String} (given : j.point = some name) (valid : NonBlank name)
      (put : PutAtPoint (strip name) content text result) : Puts j content text result
  | location {ls : List PatternLocation} {result : String} (blank : isBlankText j.point = true)
      (given : j.locations = some ls) (put : PutAtFirst (fun _ => True) content text ls result) :
      Puts j content text result

/-- The point, if there is one, is written as the table has it. -/
def Recognized (j : SmartInsertion) : Prop := ∀ name, j.point = some name → Locator.isKnown name = true

theorem onePlace_of_problems {path : String} (h : j.problems path = []) : j.OnePlace := by
  simp only [problems, List.append_eq_nil_iff] at h
  obtain ⟨⟨⟨⟨⟨⟨hcount, hpoint⟩, hlocations⟩, -⟩, -⟩, -⟩, -⟩ := h
  refine ⟨countProblems_eq_nil_iff.mp hcount, fun name hname hvalid => ?_, fun ls hls => ?_⟩
  · rw [hname] at hpoint
    by_contra hunknown
    simp [problemIf, show isAllBlank name = false from hvalid, Bool.not_eq_true _ ▸ hunknown] at hpoint
  · rw [hls, Option.map_some, Option.getD_some] at hlocations
    exact locations_of_locationsProblems hlocations

/-- Where the point is absent or blank there are locations. -/
theorem OnePlace.exists_locations (hj : j.OnePlace) (hblank : isBlankText j.point = true) :
    ∃ ls, j.locations = some ls := by
  have hone := hj.one
  rw [← Option.isSome_iff_exists]
  by_contra hnone
  simp [hblank, hnone] at hone

/-- A smart insertion whose conditions hold is carried out. -/
theorem outcome_apply (hmeets : p.meets j.conditions = true) (text : String) :
    (p.applySmartInsertion j text).outcome = (j.edit p text).outcome := by
  rw [Pass.applySmartInsertion, Attempt.outcome_bind, Pass.outcome_holds, ok_bind, hmeets, if_pos rfl]

theorem records_apply (hmeets : p.meets j.conditions = true) (text : String) :
    (p.applySmartInsertion j text).run.records =
      (p.context.meets j.conditions).records ++ (j.edit p text).run.records := by
  rw [Pass.applySmartInsertion, Pass.holds, Attempt.records_lift_bind,
    show (p.context.meets j.conditions).value = true from hmeets, if_pos rfl]

theorem edit_of_point {name : String} (h : j.point = some name) (text : String) :
    (j.edit p text).outcome =
        .ok (Locator.insertAtPoint text name (Partials.expanded j.content p.partials)).value ∧
      (j.edit p text).run.records = (Partials.expand j.content p.partials).records ++
        (Locator.insertAtPoint text name (Partials.expanded j.content p.partials)).records := by
  simp only [edit, h]
  exact ⟨rfl, (Attempt.records_lift_bind ..).trans (congrArg _ (Attempt.records_lift _))⟩

theorem edit_of_locations {ls : List PatternLocation} (hpoint : j.point = none)
    (h : j.locations = some ls) (text : String) :
    (j.edit p text).outcome =
        .ok (Locator.insertAtFirst text ls (Partials.expanded j.content p.partials)).value ∧
      (j.edit p text).run.records = (Partials.expand j.content p.partials).records ++
        (Locator.insertAtFirst text ls (Partials.expanded j.content p.partials)).records := by
  simp only [edit, hpoint, h]
  exact ⟨rfl, (Attempt.records_lift_bind ..).trans (congrArg _ (Attempt.records_lift _))⟩

/-- The record of a point that is not in the table. -/
def unknownPoint (name : String) : Record :=
  ⟨.warning, .locators, "Unknown semantic insertion point: " ++ name⟩

/-- A place that is recognized is the one that a pass goes by, and nothing is amiss. -/
theorem OnePlace.puts_of_recognized (hj : j.OnePlace) (h : j.Recognized) (text : String) :
    (∃ result, (j.edit p text).outcome = .ok result ∧
        j.Puts (Partials.expanded j.content p.partials) text result) ∧
      ∀ name, unknownPoint name ∉ (j.edit p text).run.records := by
  have hexpand := Partials.finds_expand j.content p.partials
  have hnowarning : ∀ {t : Traced String}, t.Finds → (j.edit p text).run.records =
      (Partials.expand j.content p.partials).records ++ t.records →
      ∀ name, unknownPoint name ∉ (j.edit p text).run.records := by
    intro t ht hrecords name hmem
    rw [hrecords] at hmem
    rcases List.mem_append.mp hmem with hmem | hmem
    · exact hexpand _ hmem rfl rfl
    · exact ht _ hmem rfl rfl
  cases hpoint : j.point with
  | none =>
    have hblank : isBlankText j.point = true := by rw [hpoint]; rfl
    obtain ⟨ls, hls⟩ := hj.exists_locations hblank
    obtain ⟨houtcome, hrecords⟩ := edit_of_locations (p := p) hpoint hls text
    exact ⟨⟨_, houtcome, .location hblank hls (putAtFirst_any _ text ls)⟩,
      hnowarning (Locator.finds_insertAtFirst text _ ls) hrecords⟩
  | some name =>
    have hknown := h name hpoint
    obtain ⟨hstrip, hvalid⟩ := Locator.strip_of_isKnown hknown
    obtain ⟨houtcome, hrecords⟩ := edit_of_point (p := p) hpoint text
    refine ⟨⟨_, houtcome, .point hpoint hvalid ?_⟩, hnowarning (Locator.finds_insertAtPoint hknown) hrecords⟩
    rw [hstrip]
    exact Locator.putAtPoint_insertAtPoint hknown

/-- A point that is not recognized leaves the text as it is and a warning. -/
theorem edit_of_not_recognized (h : ¬ j.Recognized) (text : String) :
    (j.edit p text).outcome = .ok text ∧ ∃ name, unknownPoint name ∈ (j.edit p text).run.records := by
  obtain ⟨name, hpoint, hknown⟩ : ∃ name, j.point = some name ∧ Locator.isKnown name = false := by
    simpa [Recognized] using h
  obtain ⟨houtcome, hrecords⟩ := edit_of_point (p := p) hpoint text
  rw [Locator.insertAtPoint_of_not_isKnown hknown] at houtcome hrecords
  exact ⟨houtcome, name, by simp [hrecords, unknownPoint]⟩

theorem OnePlace.known_of_not_blank (hj : j.OnePlace) (h : isBlankText j.point = false) :
    ∃ name, j.point = some name ∧ NonBlank name ∧ Locator.isKnown (strip name) = true := by
  obtain ⟨name, hname, hvalid⟩ := nonBlank_of_not_isBlankText (by rw [h]; rfl)
  exact ⟨name, hname, hvalid, hj.point name hname hvalid⟩

/-- Empty content is put at the recognized place of every text. -/
theorem OnePlace.puts_empty (hj : j.OnePlace) (text : String) : j.Puts "" text text := by
  cases hblank : isBlankText j.point with
  | true =>
    obtain ⟨ls, hls⟩ := hj.exists_locations hblank
    exact .location hblank hls (putAtFirst_empty _ text ls)
  | false =>
    obtain ⟨name, hname, hvalid, hknown⟩ := hj.known_of_not_blank hblank
    have hput : PutAtPoint (strip name) "" text (Locator.insertAtPoint text (strip name) "").value :=
      Locator.putAtPoint_insertAtPoint hknown
    rw [hput.eq_text_of_empty] at hput
    exact .point hname hvalid hput

/-- There is a text with room for all content at the recognized place. -/
theorem OnePlace.exists_room (hj : j.OnePlace) : ∃ text, ∀ content result,
    j.Puts content text result → result.length = text.length + content.length := by
  cases hblank : isBlankText j.point with
  | true =>
    obtain ⟨ls, hls⟩ := hj.exists_locations hblank
    obtain ⟨hne, hanchors⟩ := hj.locations ls hls
    obtain ⟨l, hl⟩ := List.exists_mem_of_ne_nil ls hne
    obtain ⟨a, hgives, -⟩ := (hanchors l hl).exists_gives
    refine ⟨a, fun content result hputs => ?_⟩
    cases hputs with
    | point given valid =>
      rw [given] at hblank
      exact absurd valid (not_nonBlank.mpr hblank)
    | location _ given put =>
      obtain rfl := Option.some.inj (hls.symm.trans given)
      exact (put.grows ⟨l, hl, a, hgives, trivial, occurs_self a⟩).length
  | false =>
    obtain ⟨name, hname, hvalid, hknown⟩ := hj.known_of_not_blank hblank
    obtain ⟨text, hroom⟩ := PutAtPoint.exists_room hknown
    refine ⟨text, fun content result hputs => ?_⟩
    cases hputs with
    | point given _ put =>
      obtain rfl := Option.some.inj (hname.symm.trans given)
      exact hroom content result put
    | location blank => exact absurd (hblank.symm.trans blank) Bool.false_ne_true

/-- The place that has been recognized is where content is put on every text exactly if there is no content
or the place is written as the table has it. -/
theorem OnePlace.forall_puts_iff (hj : j.OnePlace) :
    (∀ text, ∃ result, (j.edit p text).outcome = .ok result ∧
        j.Puts (Partials.expanded j.content p.partials) text result) ↔
      Partials.expanded j.content p.partials = "" ∨ j.Recognized := by
  constructor
  · intro h
    by_contra! hnot
    obtain ⟨hcontent, hrecognized⟩ := hnot
    obtain ⟨text, hroom⟩ := hj.exists_room
    obtain ⟨result, hresult, hputs⟩ := h text
    rw [(edit_of_not_recognized hrecognized text).1] at hresult
    obtain rfl := Except.ok.inj hresult
    have hlength := hroom _ _ hputs
    exact hcontent (String.length_eq_zero_iff.mp (by omega))
  · intro h text
    by_cases hrecognized : j.Recognized
    · exact (hj.puts_of_recognized hrecognized text).1
    · refine ⟨text, (edit_of_not_recognized hrecognized text).1, ?_⟩
      rw [h.resolve_right hrecognized]
      exact hj.puts_empty text

/-- A smart insertion that is carried out warns of an unknown point exactly if its own is not recognized. -/
theorem OnePlace.exists_unknownPoint_iff (hj : j.OnePlace) (hmeets : p.meets j.conditions = true)
    (text : String) : (∃ name, unknownPoint name ∈ (p.applySmartInsertion j text).run.records) ↔
      ¬ j.Recognized := by
  rw [records_apply hmeets]
  constructor
  · rintro ⟨name, hname⟩ hrecognized
    rcases List.mem_append.mp hname with hname | hname
    · exact absurd (Context.channel_of_mem_records_meets hname) (by simp [unknownPoint])
    · exact (hj.puts_of_recognized hrecognized text).2 name hname
  · intro hrecognized
    obtain ⟨name, hname⟩ := (edit_of_not_recognized (p := p) hrecognized text).2
    exact ⟨name, List.mem_append_right _ hname⟩

end SmartInsertion

/-! ## Documents -/

namespace RuleDocument

variable {d : RuleDocument} {p : Pass}

/-- **Content is put at the place that validation has recognized, unless blanks stand around its name.** Of
a document that has been read, a smart insertion whose conditions hold puts its content there on every text
exactly if the content is empty or the point, if there is one, is written as the table has it; and on no text
does it warn of an unknown point if it is, and on every text if it is not. -/
theorem puts_place_iff {limit : Int} {source written : String}
    (hparse : (parse limit source written).outcome = .ok d) (hpartials : p.partials = d.partials)
    {j : SmartInsertion} (hmem : j ∈ d.smartInsertions) (hmeets : p.meets j.conditions = true) :
    ((∀ text, ∃ result, (p.applySmartInsertion j text).outcome = .ok result ∧
        j.Puts (Partials.expanded j.content d.partials) text result) ↔
      Partials.expanded j.content d.partials = "" ∨ j.Recognized) ∧
    ∀ text, (∃ name, SmartInsertion.unknownPoint name ∈ (p.applySmartInsertion j text).run.records) ↔
      ¬ j.Recognized := by
  rw [outcome_parse] at hparse
  obtain ⟨-, -, -, -, -, hproblems⟩ := ofText_eq_ok_iff.mp hparse
  obtain ⟨-, -, -, hsmartInsertions, -⟩ := parts_of_problems hproblems
  obtain ⟨_, hp⟩ := hsmartInsertions j hmem
  have hj := SmartInsertion.onePlace_of_problems hp
  simp only [SmartInsertion.outcome_apply hmeets, ← hpartials]
  exact ⟨hj.forall_puts_iff, hj.exists_unknownPoint_iff hmeets⟩

/-- A document with a smart insertion whose point is padded, and one whose point is blank. -/
def paddedPoints : String :=
  "smartInsertions:\n- semantic: ' start_of_file '\n  content: X\n- semantic: ' '\n  content: Y\n" ++
    "  findInsertionPoint:\n    patterns:\n    - after: a\n"

/-- The document is accepted, with a padded point. -/
theorem exists_paddedPoints : ∃ d, (parse 8 "<string>" paddedPoints).outcome = .ok d ∧
    d.partials = [] ∧ ∃ j ∈ d.smartInsertions, j.point = some " start_of_file " ∧ j.content = "X" ∧
      d.passFor.meets j.conditions = true := by
  obtain ⟨d, hd, hholds⟩ : ∃ d, (parse 8 "<string>" paddedPoints).outcome = .ok d ∧
      (d.partials.isEmpty && d.smartInsertions.any fun j => j.point == some " start_of_file " &&
        j.content == "X" && j.conditions.isNone) = true :=
    exists_parse_of_any (by decide +kernel)
  simp only [Bool.and_eq_true, List.any_eq_true, beq_iff_eq, List.isEmpty_iff,
    Option.isNone_iff_eq_none] at hholds
  obtain ⟨hpartials, j, hj, ⟨hpoint, hcontent⟩, hconditions⟩ := hholds
  exact ⟨d, hd, hpartials, j, hj, hpoint, hcontent, by rw [hconditions]; rfl⟩

theorem puts_place_paddedPoints_iff : ∃ d, (parse 8 "<string>" paddedPoints).outcome = .ok d ∧
    ∃ j ∈ d.smartInsertions, d.passFor.meets j.conditions = true ∧
      ((∀ text, ∃ result, (d.passFor.applySmartInsertion j text).outcome = .ok result ∧
          j.Puts (Partials.expanded j.content d.partials) text result) ↔
        Partials.expanded j.content d.partials = "" ∨ j.Recognized) ∧
      ∀ text, (∃ name, SmartInsertion.unknownPoint name ∈
          (d.passFor.applySmartInsertion j text).run.records) ↔ ¬ j.Recognized := by
  obtain ⟨d, hd, -, j, hj, -, -, hmeets⟩ := exists_paddedPoints
  exact ⟨d, hd, j, hj, hmeets, puts_place_iff hd rfl hj hmeets⟩

/-- The content is not put at the start, which is the point that validation has recognized. -/
theorem not_puts_paddedPoints :
    ¬ ∀ d, (parse 8 "<string>" paddedPoints).outcome = .ok d → ∀ j ∈ d.smartInsertions,
      d.passFor.meets j.conditions = true →
        ∃ result, (d.passFor.applySmartInsertion j "a").outcome = .ok result ∧
          j.Puts (Partials.expanded j.content d.partials) "a" result := by
  intro h
  obtain ⟨d, hd, hpartials, j, hj, hpoint, hcontent, hmeets⟩ := exists_paddedPoints
  obtain ⟨result, hresult, hputs⟩ := h d hd j hj hmeets
  have hunknown : ¬ j.Recognized := fun hrecognized => absurd (hrecognized _ hpoint) (by decide)
  rw [SmartInsertion.outcome_apply hmeets, (SmartInsertion.edit_of_not_recognized hunknown "a").1] at hresult
  rw [hcontent, hpartials] at hputs
  cases hputs with
  | location blank => exact absurd (hpoint ▸ blank) (by decide)
  | point given _ put =>
    obtain rfl := Option.some.inj (hpoint.symm.trans given)
    have hstart : result = "X" ++ "a" := by
      rw [show strip " start_of_file " = Locator.startOfFile by decide] at put
      exact put.eq_of_start
    exact absurd (hresult.trans (congrArg _ hstart)) (by simp)

end RuleDocument

end TemplateRules
