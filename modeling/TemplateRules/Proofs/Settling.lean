import TemplateRules.Proofs.Reading
import TemplateRules.Proofs.SkippingRun

/-!
# Work that stumbles over a document

Documents are read in order, and one that has been read is remembered by its name. A list of documents
stumbles if one of them escapes the configuration errors at a time when its name is not known. Work
settles if it returns what the skipping run returns unless its documents stumble, and ends in a defect
if they do.

## Main definitions

* `Stumbles`: a list of documents, read in order, has one that ends the run
* `Settles`: work is compared with the skipping run over the documents that it reads

## Main results

* `stumbles_append`: stumbling over two stretches of documents
* `Settles.bind`: the comparison with the skipping run composes
-/

namespace TemplateRules

open RuleDocument (Escapes)

/-! ## Stumbling -/

/-- Whether a text can be read as a document of a name. -/
def Readable (limit : Int) (name rules : String) : Prop :=
  ∃ d, RuleDocument.ofText limit name rules = .ok d

/-- Whether a document of a name is remembered. -/
def Memory.Knows (m : Memory) (name : String) : Prop := (m.documents.lookup name).isSome

theorem Memory.knows_of_lookup {m : Memory} {name : String} {d : RuleDocument}
    (h : m.documents.lookup name = some d) : m.Knows name := by
  rw [Memory.Knows, h]
  rfl

/-- A document that is stored is known, with those that were known before. -/
theorem Memory.knows_store {m : Memory} {name n : String} {d : RuleDocument} :
    { m with documents := (name, d) :: m.documents : Memory }.Knows n ↔ m.Knows n ∨ n = name := by
  rw [Memory.Knows, List.lookup_cons]
  by_cases hn : n = name
  · simp [hn]
  · simp [hn, beq_false_of_ne hn, Memory.Knows]

/-- Documents that are read in order have one that escapes, at a time when its name is not known: no
document of that name is remembered, and none before it can be read. -/
def Stumbles (limit : Int) (m : Memory) (documents : List (String × String)) : Prop :=
  ∃ before name rules after, documents = before ++ (name, rules) :: after ∧ Escapes limit rules ∧
    ¬ m.Knows name ∧ ∀ other, (name, other) ∈ before → ¬ Readable limit name other

section Stumbling

variable {limit : Int} {m m' : Memory}

@[simp] theorem not_stumbles_nil : ¬ Stumbles limit m [] := by
  simp [Stumbles]

theorem stumbles_singleton {name rules : String} :
    Stumbles limit m [(name, rules)] ↔ Escapes limit rules ∧ ¬ m.Knows name := by
  constructor
  · rintro ⟨_ | ⟨e, before⟩, name', rules', after, hsplit, hescapes, hknown, -⟩
    · obtain ⟨⟨rfl, rfl⟩, rfl⟩ : (name = name' ∧ rules = rules') ∧ [] = after := by
        simpa using hsplit
      exact ⟨hescapes, hknown⟩
    · simp at hsplit
  · rintro ⟨hescapes, hknown⟩
    exact ⟨[], name, rules, [], rfl, hescapes, hknown, by simp⟩

/-- Documents that can all be read do not stumble. -/
theorem not_stumbles_of_readable {docs : List (String × String)}
    (h : ∀ e ∈ docs, Readable limit e.1 e.2) : ¬ Stumbles limit m docs := by
  rintro ⟨before, name, rules, after, rfl, hescapes, -⟩
  obtain ⟨d, hd⟩ := h (name, rules) (by simp)
  obtain ⟨f, hf⟩ := (@RuleDocument.ofText_eq_defect_iff limit name rules).mpr hescapes
  simp [hd] at hf

/-- Two stretches of documents are read one after the other. -/
theorem stumbles_append {docs docs' : List (String × String)}
    (hknows : ∀ name, m'.Knows name ↔
      m.Knows name ∨ ∃ rules, (name, rules) ∈ docs ∧ Readable limit name rules) :
    Stumbles limit m (docs ++ docs') ↔ Stumbles limit m docs ∨ Stumbles limit m' docs' := by
  constructor
  · rintro ⟨before, name, rules, after, hsplit, hescapes, hknown, hbefore⟩
    rcases List.append_eq_append_iff.mp hsplit with ⟨mid, rfl, hrest⟩ | ⟨mid, hdocs, hrest⟩
    · refine .inr ⟨mid, name, rules, after, hrest, hescapes, ?_, ?_⟩
      · rw [hknows]
        rintro (h | ⟨other, hmem, hread⟩)
        · exact hknown h
        · exact hbefore other (by simp [hmem]) hread
      · exact fun other hmem => hbefore other (by simp [hmem])
    · rcases mid with _ | ⟨e, mid⟩
      · refine .inr ⟨[], name, rules, after, hrest.symm, hescapes, ?_, by simp⟩
        rw [hknows]
        rintro (h | ⟨other, hmem, hread⟩)
        · exact hknown h
        · exact hbefore other (by simpa [hdocs] using hmem) hread
      · obtain ⟨rfl, rfl⟩ : (name, rules) = e ∧ after = mid ++ docs' := by simpa using hrest
        exact .inl ⟨before, name, rules, mid, hdocs, hescapes, hknown, hbefore⟩
  · rintro (⟨before, name, rules, after, rfl, hescapes, hknown, hbefore⟩ |
      ⟨before, name, rules, after, rfl, hescapes, hknown, hbefore⟩)
    · exact ⟨before, name, rules, after ++ docs', by simp, hescapes, hknown, hbefore⟩
    · refine ⟨docs ++ before, name, rules, after, by simp, hescapes, ?_, ?_⟩
      · exact fun h => hknown ((hknows name).mpr (.inl h))
      · intro other hmem hread
        rcases List.mem_append.mp hmem with hmem | hmem
        · exact hknown ((hknows name).mpr (.inr ⟨other, hmem, hread⟩))
        · exact hbefore other hmem hread

end Stumbling

/-! ## Comparison with the skipping run -/

/-- Work that reads some documents returns the result of the skipping run if none of them stumbles, and
ends in a defect otherwise. Then exactly the documents that can be read have become known, and the
libraries of the run are the same. -/
structure Settles {α : Type} (r : Run) (w : Working α) (m : Memory)
    (documents : List (String × String)) (result : α × Memory) : Prop where
  returns : ¬ Stumbles r.settings.limit m documents →
    Working.outcome w m = (.ok result.1, result.2)
  fails : Stumbles r.settings.limit m documents →
    ∃ d, (Working.outcome w m).1 = .error (.defect d)
  knows : ∀ name, result.2.Knows name ↔
    m.Knows name ∨ ∃ rules, (name, rules) ∈ documents ∧ Readable r.settings.limit name rules
  carriers : r.carriers result.2 = r.carriers m

namespace Settles

variable {α β : Type} {r : Run} {m : Memory}

/-- Work that reads no documents. -/
theorem ofReturns {w : Working α} {result : α × Memory}
    (hreturns : Working.outcome w m = (.ok result.1, result.2))
    (hdocuments : result.2.documents = m.documents)
    (hcarriers : r.carriers result.2 = r.carriers m) : Settles r w m [] result where
  returns _ := hreturns
  fails h := absurd h not_stumbles_nil
  knows name := by simp [Memory.Knows, hdocuments]
  carriers := hcarriers

theorem ofPure (a : α) : Settles r (pure a) m [] (a, m) :=
  ofReturns rfl rfl rfl

/-- Work that comes to the same from a memory with the same documents and libraries. -/
theorem startingFrom {w w' : Working α} {m' : Memory} {documents : List (String × String)}
    {result : α × Memory} (h : Settles r w m' documents result)
    (hdocuments : m'.documents = m.documents) (hcarriers : r.carriers m' = r.carriers m)
    (heq : Working.outcome w' m = Working.outcome w m') : Settles r w' m documents result := by
  have hknows : ∀ name, m'.Knows name ↔ m.Knows name := fun name => by
    rw [Memory.Knows, hdocuments, Memory.Knows]
  have hstumbles : Stumbles r.settings.limit m' documents ↔ Stumbles r.settings.limit m documents := by
    simp only [Stumbles, hknows]
  exact {
    returns := fun hs => heq.trans (h.returns (hs ∘ hstumbles.mp))
    fails := fun hs => heq ▸ h.fails (hstumbles.mpr hs)
    knows := fun name => by rw [h.knows, hknows]
    carriers := h.carriers.trans hcarriers }

/-- Work that differs in its records only. -/
theorem congr {w w' : Working α} {documents : List (String × String)} {result : α × Memory}
    (h : Settles r w m documents result) (heq : Working.outcome w' m = Working.outcome w m) :
    Settles r w' m documents result :=
  h.startingFrom rfl rfl heq

/-- Work after work reads the documents of both in order. -/
theorem bind {w : Working α} {f : α → Working β} {docs docs' : List (String × String)}
    {mid : α × Memory} {result : β × Memory} (hw : Settles r w m docs mid)
    (hf : Settles r (f mid.1) mid.2 docs' result) : Settles r (w >>= f) m (docs ++ docs') result where
  returns h := by
    obtain ⟨h₁, h₂⟩ := not_or.mp (fun hor => h ((stumbles_append hw.knows).mpr hor))
    rw [Working.outcome_bind, hw.returns h₁]
    exact hf.returns h₂
  fails h := by
    by_cases h₁ : Stumbles r.settings.limit m docs
    · obtain ⟨d, hd⟩ := hw.fails h₁
      rw [Working.outcome_bind]
      rcases hout : Working.outcome w m with ⟨_ | a, m'⟩
      · exact ⟨d, by simpa [hout] using hd⟩
      · simp [hout] at hd
    · rcases (stumbles_append hw.knows).mp h with h₂ | h₂
      · exact absurd h₂ h₁
      · rw [Working.outcome_bind, hw.returns h₁]
        exact hf.fails h₂
  knows name := by
    rw [hf.knows, hw.knows]
    constructor
    · rintro ((h | ⟨rules, hmem, hread⟩) | ⟨rules, hmem, hread⟩)
      · exact .inl h
      · exact .inr ⟨rules, List.mem_append_left _ hmem, hread⟩
      · exact .inr ⟨rules, List.mem_append_right _ hmem, hread⟩
    · rintro (h | ⟨rules, hmem, hread⟩)
      · exact .inl (.inl h)
      · rcases List.mem_append.mp hmem with hmem | hmem
        · exact .inl (.inr ⟨rules, hmem, hread⟩)
        · exact .inr ⟨rules, hmem, hread⟩
  carriers := hf.carriers.trans hw.carriers

theorem map {w : Working α} {documents : List (String × String)} {result : α × Memory}
    (h : Settles r w m documents result) (f : α → β) :
    Settles r (w >>= fun a => pure (f a)) m documents (f result.1, result.2) := by
  have hpure : Settles r (pure (f result.1)) result.2 [] (f result.1, result.2) := ofPure _
  have hboth := h.bind (f := fun a => pure (f a)) hpure
  rwa [List.append_nil] at hboth

end Settles

end TemplateRules
