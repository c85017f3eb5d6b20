import TemplateRules.Proofs.EditEffect

/-!
# Documents that only insert

A document without replacements never loses text. The insertions whose turn it is are made one after the
other, and an anchor may stand in what an earlier one has put there. Each insertion that finds its place puts
its whole content between two characters of the text or at an end of it, and each that does not is passed
over. So the characters of the template are still there in their order, and the length has grown by the
contents that found their place.

## Main definitions

* `PutInOrder`: insertions that are made one after the other, with the contents that found their place
* `totalLength`: the sum of the lengths of some contents

## Main results

* `PutInOrder.kept`, `PutInOrder.length_eq`: what a run of insertions does to a text
* `Engine.apply_grows`: what a document without replacements does to a template
-/

namespace TemplateRules

/-- Insertions are made in order, each on the text that those before it have left. The contents are those of
the insertions that find their place there; the others leave the text as it is. -/
inductive PutInOrder : List PrimitiveEdit → String → List String → String → Prop
  | done {text : String} : PutInOrder [] text [] text
  | placed {e : PrimitiveEdit} {es : List PrimitiveEdit} {content text next result : String}
      {contents : List String} (inserts : e.inserted = some content) (finds : e.Finds text)
      (made : e.run text = some next) (rest : PutInOrder es next contents result) :
      PutInOrder (e :: es) text (content :: contents) result
  | passed {e : PrimitiveEdit} {es : List PrimitiveEdit} {text result : String} {contents : List String}
      (misses : ¬ e.Finds text) (made : e.run text = some text) (rest : PutInOrder es text contents result) :
      PutInOrder (e :: es) text contents result

/-- The sum of the lengths of some contents. -/
def totalLength : List String → Nat
  | [] => 0
  | content :: contents => content.length + totalLength contents

namespace PutInOrder

variable {es : List PrimitiveEdit} {text result : String} {contents : List String}

/-- Edits that insert, if they can be made, are made in order. -/
theorem exists_of_foldlM (hinserts : ∀ e ∈ es, e = .impossible ∨ ∃ content, e.inserted = some content)
    (hrun : es.foldlM (fun text edit => edit.run text) text = some result) :
    ∃ contents, PutInOrder es text contents result := by
  induction es generalizing text with
  | nil =>
    obtain rfl := Option.some.inj hrun
    exact ⟨[], .done⟩
  | cons e es ih =>
    obtain ⟨he, hes⟩ := List.forall_mem_cons.mp hinserts
    rw [List.foldlM_cons] at hrun
    obtain ⟨next, hnext, hrest⟩ := Option.bind_eq_some_iff.mp hrun
    obtain ⟨contents, hput⟩ := ih hes hrest
    by_cases hfinds : e.Finds text
    · rcases he with rfl | ⟨content, hcontent⟩
      · exact absurd hfinds id
      · exact ⟨content :: contents, .placed hcontent hfinds hnext hput⟩
    · obtain rfl := PrimitiveEdit.run_of_not_finds hfinds hnext
      exact ⟨contents, .passed hfinds hnext hput⟩

/-- The characters of the text are still there, in their order. -/
theorem kept (h : PutInOrder es text contents result) : text.toList.Sublist result.toList := by
  induction h with
  | done => exact .refl _
  | placed inserts finds made _ ih => exact (PrimitiveEdit.grows_of_finds inserts finds made).kept.trans ih
  | passed _ _ _ ih => exact ih

/-- The length has grown by the contents that found their place. -/
theorem length_eq (h : PutInOrder es text contents result) :
    result.length = text.length + totalLength contents := by
  induction h with
  | done => rfl
  | placed inserts finds made _ ih =>
    rw [ih, (PrimitiveEdit.grows_of_finds inserts finds made).length, totalLength, Nat.add_assoc]
  | passed _ _ _ ih => exact ih

end PutInOrder

/-! ## Documents without replacements -/

section Guarded

variable (partials : Table String)

theorem Insertion.inserts_guarded (i : Insertion) :
    (i.guarded partials).edit = .impossible ∨
      (i.guarded partials).edit.inserted = some (Partials.expanded i.content partials) := by
  rw [Insertion.guarded]
  rcases i.after with _ | anchor
  · rcases i.before with _ | anchor
    · rcases i.edge with _ | edge
      · exact .inl rfl
      · exact .inr rfl
    · exact .inr rfl
  · exact .inr rfl

theorem SmartInsertion.inserts_guarded (j : SmartInsertion) :
    (j.guarded partials).edit = .impossible ∨
      (j.guarded partials).edit.inserted = some (Partials.expanded j.content partials) := by
  rw [SmartInsertion.guarded]
  rcases j.point with _ | point
  · rcases j.locations with _ | locations
    · exact .inl rfl
    · exact .inr rfl
  · exact .inr rfl

end Guarded

/-- The edits of a document without replacements insert. -/
theorem Context.inserts_of_due {x : Context} {d : RuleDocument} (hreplacements : d.replacements = [])
    (hsmart : d.smartReplacements = []) {e : PrimitiveEdit} (h : e ∈ x.due d) :
    e = .impossible ∨ ∃ content, e.inserted = some content := by
  obtain ⟨chain, hchain, g, hg, rfl⟩ := exists_mem_of_due h
  rcases d.rule_of_mem_chains hchain hg with ⟨c, hc, -⟩ | ⟨r, hr, -⟩ | ⟨i, -, rfl⟩ | ⟨j, -, rfl⟩
  · simp [hreplacements] at hc
  · simp [hsmart] at hr
  · exact (i.inserts_guarded d.partials).imp_right fun h => ⟨_, h⟩
  · exact (j.inserts_guarded d.partials).imp_right fun h => ⟨_, h⟩

namespace Engine

/-- **A document without replacements never loses text.** If a text is returned for a template, where nothing
is kept yet, then the characters of the template are in it in their order, and it is longer by the lengths
of the contents, with their partials, of those insertions that are due and that found their place when they
were made. -/
theorem apply_grows {limit : Int} {template text : String} {d : RuleDocument} {x : Context}
    {given : Option String} {kept : Results} (hreplacements : d.replacements = [])
    (hsmart : d.smartReplacements = [])
    (h : (apply limit .empty template (some d) x given).outcome = .ok (text, kept)) :
    template.toList.Sublist text.toList ∧
      ∃ contents, PutInOrder (x.due d) template contents text ∧
        text.length = template.length + totalLength contents := by
  obtain ⟨contents, hput⟩ := PutInOrder.exists_of_foldlM
    (fun _ he => Context.inserts_of_due hreplacements hsmart he) (foldlM_due_of_apply h)
  exact ⟨hput.kept, contents, hput, hput.length_eq⟩

/-- A document that inserts next to what it has inserted, misses an anchor, and comes to a place by a
fallback. -/
def nestsInsertions : RuleDocument where
  metadata := none
  conditions := none
  insertions := [⟨⟨some "a", none, none, "<\x7b\x7b>p\x7d\x7d>", none⟩, []⟩,
    ⟨⟨none, some "x", none, "!", none⟩, []⟩, ⟨⟨some "missing", none, none, "lost", none⟩, []⟩]
  replacements := []
  smartReplacements := []
  smartInsertions := [⟨some "after_package", none, "unmet", some (containing "z"),
      [⟨none, none, some " End ", "$", none⟩]⟩,
    ⟨none, some [⟨some "z", none⟩, ⟨none, some "b"⟩], "-", none, []⟩]
  partials := [("p", "x")]

theorem apply_nestsInsertions : ∃ kept,
    (apply 8 .empty "ab" (some nestsInsertions) lettersContext none).outcome = .ok ("a<!x>-b$", kept) ∧
      "ab".toList.Sublist "a<!x>-b$".toList ∧
      ∃ contents, PutInOrder (lettersContext.due nestsInsertions) "ab" contents "a<!x>-b$" ∧
        "a<!x>-b$".length = "ab".length + totalLength contents := by
  obtain ⟨kept, h⟩ : ∃ kept, (apply 8 .empty "ab" (some nestsInsertions) lettersContext none).outcome =
      .ok ("a<!x>-b$", kept) := ⟨_, rfl⟩
  exact ⟨kept, h, apply_grows rfl rfl h⟩

end Engine

end TemplateRules
