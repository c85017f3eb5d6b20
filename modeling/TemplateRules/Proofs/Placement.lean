import TemplateRules.Edit.Locator
import TemplateRules.Proofs.Occurrences

/-!
# Where content is put

Content stands right behind the first occurrence of an anchor or right before it, or at the first of
several locations that is there. What is said here speaks of the texts around the anchor and not of the
search for it, and the literal edits are shown to do what is said.

## Main definitions

* `Text.Occurs`, `Text.FirstAround`: occurrences of a text and what stands around the first one
* `Grows`: a text is another one with some content put into it
* `PutNextTo`: content next to the first occurrence of an anchor
* `PutAtFirst`: content at the first location with an anchor that counts and occurs

## Main results

* `putNextTo_insertAfter`, `putNextTo_insertBefore`: the literal edits put content next to the anchor
* `putAtFirst_insertAtFirst`: the first location with an anchor is where content is put
-/

namespace TemplateRules

/-! ## Occurrences -/

namespace Text

/-- One text occurs in another. -/
def Occurs (anchor text : String) : Prop := ∃ before after, text = before ++ anchor ++ after

/-- What stands before and after the first occurrence of an anchor. -/
structure FirstAround (anchor text before after : String) : Prop where
  split : text = before ++ anchor ++ after
  first : ∀ b a, text = b ++ anchor ++ a → before.length ≤ b.length

theorem occurs_self (text : String) : Occurs text text := ⟨"", "", by simp⟩

theorem occurs_empty (text : String) : Occurs "" text := ⟨"", text, by simp⟩

theorem FirstAround.occurs {anchor text before after : String}
    (h : FirstAround anchor text before after) : Occurs anchor text := ⟨before, after, h.split⟩

/-- There is one first occurrence at most. -/
theorem FirstAround.unique {anchor text before after before' after' : String}
    (h : FirstAround anchor text before after) (h' : FirstAround anchor text before' after') :
    before = before' ∧ after = after' := by
  have hlength : before.length = before'.length :=
    Nat.le_antisymm (h.first _ _ h'.split) (h'.first _ _ h.split)
  have heq : before.toList ++ (anchor.toList ++ after.toList) =
      before'.toList ++ (anchor.toList ++ after'.toList) := by
    simpa using congrArg String.toList (h.split.symm.trans h'.split)
  obtain ⟨hbefore, hrest⟩ := List.append_inj heq (by simp only [String.length_toList, hlength])
  exact ⟨String.toList_inj.mp hbefore, String.toList_inj.mp (List.append_cancel_left hrest)⟩

theorem occurs_iff {anchor text : String} : Occurs anchor text ↔ anchor.toList <:+: text.toList := by
  constructor
  · rintro ⟨before, after, rfl⟩
    exact ⟨before.toList, after.toList, by simp⟩
  · rintro ⟨before, after, h⟩
    exact ⟨String.ofList before, String.ofList after, String.toList_inj.mp (by simpa using h.symm)⟩

theorem contains_iff {text anchor : String} : contains text anchor = true ↔ Occurs anchor text := by
  rw [contains, occursIn_iff, occurs_iff]

/-- The search for an occurrence finds the first one. -/
theorem first_of_around? {p text before after : List Char} (h : around? p text = some (before, after)) :
    text = before ++ p ++ after ∧ ∀ b a, text = b ++ p ++ a → before.length ≤ b.length := by
  induction text generalizing before with
  | nil =>
    rw [around?] at h
    split at h
    · rename_i hempty
      obtain ⟨rfl, rfl⟩ : before = [] ∧ after = [] := by simpa [eq_comm] using h
      simp [List.isEmpty_iff.mp hempty]
    · simp at h
  | cons c cs ih =>
    rw [around?] at h
    split at h
    · rename_i hbegins
      obtain ⟨rfl, rfl⟩ : before = [] ∧ after = (c :: cs).drop p.length := by simpa [eq_comm] using h
      refine ⟨?_, by simp⟩
      obtain ⟨rest, hrest⟩ := List.isPrefixOf_iff_prefix.mp hbegins
      simp [← hrest]
    · rename_i hbegins
      obtain ⟨⟨start, rest⟩, hcs, heq⟩ := Option.map_eq_some_iff.mp h
      obtain ⟨rfl, rfl⟩ : c :: start = before ∧ rest = after := by simpa using heq
      obtain ⟨hsplit, hfirst⟩ := ih hcs
      refine ⟨by simp [hsplit], ?_⟩
      rintro (_ | ⟨c', b⟩) a hba
      · exact absurd (List.isPrefixOf_iff_prefix.mpr ⟨a, by simpa using hba.symm⟩) hbegins
      · obtain ⟨rfl, hrest⟩ : c = c' ∧ cs = b ++ p ++ a := by simpa using hba
        simpa using hfirst b a hrest

theorem firstAround_of_around? {anchor text : String} {before after : List Char}
    (h : around? anchor.toList text.toList = some (before, after)) :
    FirstAround anchor text (String.ofList before) (String.ofList after) := by
  obtain ⟨hsplit, hfirst⟩ := first_of_around? h
  refine ⟨String.toList_inj.mp (by simpa using hsplit), fun b a hba => ?_⟩
  simpa only [String.length_ofList, String.length_toList] using
    hfirst b.toList a.toList (by simp [hba])

theorem not_occurs_of_around? {anchor text : String}
    (h : around? anchor.toList text.toList = none) : ¬ Occurs anchor text := by
  rw [occurs_iff, ← around?_isSome_iff, h]
  simp

end Text

open Text

/-! ## Texts that grow -/

/-- One text is another one with some content put into it: all characters of the other one are there in
their order, and the length of the content comes to its length. -/
structure Grows (content text next : String) : Prop where
  kept : text.toList.Sublist next.toList
  length : next.length = text.length + content.length

theorem grows_append_left (content text : String) : Grows content text (content ++ text) where
  kept := by
    rw [String.toList_append]
    exact List.sublist_append_right ..
  length := by rw [String.length_append, Nat.add_comm]

theorem grows_append_right (content text : String) : Grows content text (text ++ content) where
  kept := by
    rw [String.toList_append]
    exact List.sublist_append_left ..
  length := String.length_append ..

/-! ## Content next to an anchor -/

/-- A side of an anchor. -/
inductive Side where
  | after
  | before
deriving DecidableEq

/-- Content at a side of an anchor. -/
def Side.join (anchor content : String) : Side → String
  | .after => anchor ++ content
  | .before => content ++ anchor

theorem Side.sublist_join (side : Side) (anchor content : String) :
    anchor.toList.Sublist (side.join anchor content).toList := by
  cases side with
  | after => exact (grows_append_right content anchor).kept
  | before => exact (grows_append_left content anchor).kept

/-- Content put right at a side of the first occurrence of an anchor, or the text as it is without one. -/
inductive PutNextTo (side : Side) (anchor content text : String) : String → Prop
  | present {before after : String} (around : FirstAround anchor text before after) :
      PutNextTo side anchor content text (before ++ side.join anchor content ++ after)
  | absent (nowhere : ¬ Occurs anchor text) : PutNextTo side anchor content text text

theorem putNextTo_insertAfter (anchor content text : String) :
    PutNextTo .after anchor content text (Edit.insertAfter text anchor content).value := by
  rw [Edit.insertAfter, Edit.insertedAfter?]
  cases h : around? anchor.toList text.toList with
  | none => exact .absent (not_occurs_of_around? h)
  | some parts =>
    have heq : String.ofList (parts.1 ++ anchor.toList ++ content.toList ++ parts.2) =
        String.ofList parts.1 ++ Side.join anchor content .after ++ String.ofList parts.2 :=
      String.toList_inj.mp (by simp [Side.join])
    simp only [Option.map_some, Traced.value_pure, heq]
    exact .present (firstAround_of_around? h)

theorem putNextTo_insertBefore (anchor content text : String) :
    PutNextTo .before anchor content text (Edit.insertBefore text anchor content).value := by
  rw [Edit.insertBefore, Edit.insertedBefore?]
  cases h : around? anchor.toList text.toList with
  | none => exact .absent (not_occurs_of_around? h)
  | some parts =>
    have heq : String.ofList (parts.1 ++ content.toList ++ anchor.toList ++ parts.2) =
        String.ofList parts.1 ++ Side.join anchor content .before ++ String.ofList parts.2 :=
      String.toList_inj.mp (by simp [Side.join])
    simp only [Option.map_some, Traced.value_pure, heq]
    exact .present (firstAround_of_around? h)

namespace PutNextTo

variable {side : Side} {anchor content text result : String}

/-- There is one way to put content next to an anchor. -/
theorem unique {result' : String} (h : PutNextTo side anchor content text result)
    (h' : PutNextTo side anchor content text result') : result = result' := by
  cases h with
  | present around =>
    cases h' with
    | present around' =>
      obtain ⟨rfl, rfl⟩ := around.unique around'
      rfl
    | absent nowhere => exact absurd around.occurs nowhere
  | absent nowhere =>
    cases h' with
    | present around' => exact absurd around'.occurs nowhere
    | absent _ => rfl

/-- Next to an anchor that occurs there is room for the whole content. -/
theorem grows (h : PutNextTo side anchor content text result) (hoccurs : Occurs anchor text) :
    Grows content text result := by
  cases h with
  | @present before after around =>
    have hjoin : (side.join anchor content).length = anchor.length + content.length := by
      cases side <;> simp only [Side.join, String.length_append, Nat.add_comm]
    rw [around.split]
    refine ⟨?_, ?_⟩
    · simp only [String.toList_append]
      exact ((List.Sublist.refl _).append (side.sublist_join anchor content)).append (.refl _)
    · simp only [String.length_append, hjoin]
      omega
  | absent nowhere => exact absurd hoccurs nowhere

theorem eq_text (h : PutNextTo side anchor content text result) (hnowhere : ¬ Occurs anchor text) :
    result = text := by
  cases h with
  | present around => exact absurd around.occurs hnowhere
  | absent _ => rfl

theorem eq_text_of_empty (h : PutNextTo side anchor "" text result) : result = text := by
  cases h with
  | present around =>
    rw [around.split]
    cases side <;> simp [Side.join]
  | absent _ => rfl

/-- Next to the empty text, which occurs first at the start, is before everything. -/
theorem eq_of_empty_anchor (h : PutNextTo side "" content text result) : result = content ++ text := by
  cases h with
  | present around =>
    have hstart := around.first "" text (by simp)
    obtain rfl := String.length_eq_zero_iff.mp (Nat.le_zero.mp hstart)
    rw [around.split]
    cases side <;> simp [Side.join]
  | absent nowhere => exact absurd (occurs_empty text) nowhere

end PutNextTo

/-- Empty content leaves no trace next to any anchor. -/
theorem putNextTo_empty (side : Side) (anchor text : String) : PutNextTo side anchor "" text text := by
  cases side with
  | after =>
    have h := putNextTo_insertAfter anchor "" text
    rwa [h.eq_text_of_empty] at h
  | before =>
    have h := putNextTo_insertBefore anchor "" text
    rwa [h.eq_text_of_empty] at h

/-! ## Content at the first of several locations -/

/-- A text is one of the anchors that are given for a location. -/
def PatternLocation.Gives (l : PatternLocation) (anchor : String) : Prop :=
  l.after = some anchor ∨ l.before = some anchor

/-- Content put at the first location with an anchor that counts and occurs: behind the anchor `after`
or, if it does not occur, before the anchor `before`. A location without such an anchor is skipped. -/
inductive PutAtFirst (counts : String → Prop) (content text : String) :
    List PatternLocation → String → Prop
  | nowhere : PutAtFirst counts content text [] text
  | after {l : PatternLocation} {rest : List PatternLocation} {anchor result : String}
      (given : l.after = some anchor) (valid : counts anchor) (occurs : Occurs anchor text)
      (put : PutNextTo .after anchor content text result) : PutAtFirst counts content text (l :: rest) result
  | before {l : PatternLocation} {rest : List PatternLocation} {anchor result : String}
      (absent : ∀ a, l.after = some a → counts a → ¬ Occurs a text)
      (given : l.before = some anchor) (valid : counts anchor) (occurs : Occurs anchor text)
      (put : PutNextTo .before anchor content text result) : PutAtFirst counts content text (l :: rest) result
  | skip {l : PatternLocation} {rest : List PatternLocation} {result : String}
      (absent : ∀ a, l.Gives a → counts a → ¬ Occurs a text)
      (later : PutAtFirst counts content text rest result) :
      PutAtFirst counts content text (l :: rest) result

section Locations

variable {counts : String → Prop} {content text result : String} {locations : List PatternLocation}

/-- Content is put at the first location with an anchor, if every anchor that is given counts. -/
theorem putAtFirst_insertAtFirst (hcounts : ∀ l ∈ locations, ∀ a, l.Gives a → counts a) :
    PutAtFirst counts content text locations (Locator.insertAtFirst text locations content).value := by
  induction locations with
  | nil => exact .nowhere
  | cons l rest ih =>
    obtain ⟨hl, hrest⟩ := List.forall_mem_cons.mp hcounts
    have hfilter : ∀ o : Option String, o.filter (contains text) = none ↔
        ∀ a, o = some a → ¬ Occurs a text := by
      intro o
      simp only [Option.filter_eq_none_iff, contains_iff]
    rw [Locator.insertAtFirst]
    cases hafter : l.after.filter (contains text) with
    | some anchor =>
      obtain ⟨hgiven, hoccurs⟩ := Option.filter_eq_some_iff.mp hafter
      exact .after hgiven (hl anchor (.inl hgiven)) (contains_iff.mp hoccurs) (putNextTo_insertAfter ..)
    | none =>
      have hnowhere := (hfilter _).mp hafter
      cases hbefore : l.before.filter (contains text) with
      | some anchor =>
        obtain ⟨hgiven, hoccurs⟩ := Option.filter_eq_some_iff.mp hbefore
        exact .before (fun a ha _ => hnowhere a ha) hgiven (hl anchor (.inr hgiven))
          (contains_iff.mp hoccurs) (putNextTo_insertBefore ..)
      | none =>
        refine .skip (fun a ha _ => ?_) (ih hrest)
        exact ha.elim (hnowhere a) ((hfilter _).mp hbefore a)

/-- Content is put at the first location with an anchor, whatever the anchors are. -/
theorem putAtFirst_any (content text : String) (locations : List PatternLocation) :
    PutAtFirst (fun _ => True) content text locations
      (Locator.insertAtFirst text locations content).value :=
  putAtFirst_insertAtFirst fun _ _ _ _ => trivial

/-- Where some anchor counts and occurs there is room for the whole content. -/
theorem PutAtFirst.grows (h : PutAtFirst counts content text locations result)
    (hoccurs : ∃ l ∈ locations, ∃ a, l.Gives a ∧ counts a ∧ Occurs a text) :
    Grows content text result := by
  induction h with
  | nowhere => simp at hoccurs
  | after _ _ occurs put => exact put.grows occurs
  | before _ _ _ occurs put => exact put.grows occurs
  | skip absent _ ih =>
    obtain ⟨l', hmem, a, ha, hcounts, hin⟩ := hoccurs
    rcases List.mem_cons.mp hmem with rfl | hmem
    · exact absurd hin (absent a ha hcounts)
    · exact ih ⟨l', hmem, a, ha, hcounts, hin⟩

/-- Where no anchor counts and occurs the text stays as it is. -/
theorem PutAtFirst.eq_text (h : PutAtFirst counts content text locations result)
    (hnowhere : ∀ l ∈ locations, ∀ a, l.Gives a → counts a → ¬ Occurs a text) : result = text := by
  induction h with
  | nowhere => rfl
  | after given valid occurs _ => exact absurd occurs (hnowhere _ (by simp) _ (.inl given) valid)
  | before _ given valid occurs _ => exact absurd occurs (hnowhere _ (by simp) _ (.inr given) valid)
  | skip _ _ ih => exact ih fun l hl => hnowhere l (List.mem_cons_of_mem _ hl)

/-- Empty content leaves no trace, whichever anchors count. -/
theorem putAtFirst_empty (counts : String → Prop) (text : String) (locations : List PatternLocation) :
    PutAtFirst counts "" text locations text := by
  induction locations with
  | nil => exact .nowhere
  | cons l rest ih =>
    by_cases hafter : ∃ a, l.after = some a ∧ counts a ∧ Occurs a text
    · obtain ⟨a, hgiven, hcounts, hoccurs⟩ := hafter
      exact .after hgiven hcounts hoccurs (putNextTo_empty .after a text)
    · have hnone : ∀ a, l.after = some a → counts a → ¬ Occurs a text :=
        fun a hgiven hcounts hoccurs => hafter ⟨a, hgiven, hcounts, hoccurs⟩
      by_cases hbefore : ∃ a, l.before = some a ∧ counts a ∧ Occurs a text
      · obtain ⟨a, hgiven, hcounts, hoccurs⟩ := hbefore
        exact .before hnone hgiven hcounts hoccurs (putNextTo_empty .before a text)
      · refine .skip (fun a ha hcounts hoccurs => ?_) ih
        exact ha.elim (fun h => hnone a h hcounts hoccurs) fun h => hbefore ⟨a, h, hcounts, hoccurs⟩

theorem PutAtFirst.eq_text_of_empty (h : PutAtFirst counts "" text locations result) :
    result = text := by
  induction h with
  | nowhere => rfl
  | after _ _ _ put => exact put.eq_text_of_empty
  | before _ _ _ _ put => exact put.eq_text_of_empty
  | skip _ _ ih => exact ih

end Locations

end TemplateRules
