import Mathlib.Data.List.Induction
import Mathlib.Data.List.Nodup
import TemplateRules.Proofs.Outcome
import TemplateRules.Source

/-!
# The categories of a request

A request asks for categories, by themselves or by their names, and may hold names of nothing. A category is
found at an entry if the entry stands for it, it has not been found before and the check says at that time
that it is available; what the check says may change with the state of the run. The result holds the
categories in the order in which they are found, and the base after them if it is not among them. So the base
need not be last: a category that is found after it stays behind it.

## Main definitions

* `Source.Request`: what is asked for, with `Request.names` and `Request.asked`
* `Source.resolved`: the categories that a request comes to
* `Source.Finds`: a category is found at an entry
* `Source.FindsAfterBase`: a category is found after the base

## Main results

* `Source.getLast?_resolved_iff`: when the base is last
* `Source.resolved_of_pure_check`: what a request comes to if the check always says the same
-/

namespace TemplateRules.Source

variable {σ : Type}

/-! ## Requests -/

/-- An entry of a request: a category, or a text that may be the name of one. -/
inductive Entry where
  | category (s : Source)
  | text (name : String)

namespace Entry

/-- The name that is looked up for an entry. -/
def name : Entry → String
  | category s => s.name
  | text name => name

/-- The category that an entry stands for. -/
def source? : Entry → Option Source
  | category s => some s
  | text name => ofName? name

end Entry

/-- What is asked for, highest first; it may be missing. -/
abbrev Request := Option (List Entry)

namespace Request

/-- The names of a request. -/
def names (request : Request) : List String := (request.getD []).map Entry.name

/-- The categories that a request asks for, in its order. A missing request asks for all of them, and so does
an empty one. -/
def asked (request : Request) : List Source :=
  if (request.getD []).isEmpty then all else (request.getD []).filterMap Entry.source?

end Request

@[simp] theorem ofName?_name (s : Source) : ofName? s.name = some s := by
  cases s <;> decide

theorem name_injective : Function.Injective name := by
  intro s t h
  rw [← Option.some.injEq, ← ofName?_name, ← ofName?_name, h]

theorem Entry.source?_eq (e : Entry) : e.source? = ofName? e.name := by
  cases e with
  | category s => exact (ofName?_name s).symm
  | text name => rfl

/-- The names of all categories stand for all of them. -/
theorem filterMap_defaultNames : defaultNames.filterMap ofName? = all := by decide

theorem Request.asked_eq (request : Request) :
    request.asked = (requestedNames request.names).filterMap ofName? := by
  rw [asked, requestedNames, names, List.isEmpty_map]
  split
  · exact filterMap_defaultNames.symm
  · rw [List.filterMap_map]
    exact List.filterMap_congr fun e _ => e.source?_eq

/-! ## The search -/

/-- The value of work with a state, and the state after it, without the records. -/
def Tracking.outcome {α : Type} (w : Tracking σ α) (st : σ) : α × σ := (w.run st).value

theorem Tracking.outcome_bind {α β : Type} (w : Tracking σ α) (f : α → Tracking σ β) (st : σ) :
    Tracking.outcome (w >>= f) st =
      Tracking.outcome (f (Tracking.outcome w st).1) (Tracking.outcome w st).2 := rfl

@[simp] theorem Tracking.outcome_pure {α : Type} (a : α) (st : σ) :
    Tracking.outcome (pure a : Tracking σ α) st = (a, st) := rfl

@[simp] theorem Tracking.outcome_note (level : Level) (text : String) (st : σ) :
    Tracking.outcome (note level text) st = ((), st) := rfl

/-- The categories that are found among names, in the order in which they are found, and the state after the
search. -/
def search (check : Source → Tracking σ Availability) (order : List String) (st : σ) : List Source × σ :=
  Tracking.outcome (order.foldlM (consider check) []) st

/-- The categories that a request comes to. -/
def resolved (check : Source → Tracking σ Availability) (request : Request) (st : σ) : List Source :=
  (Tracking.outcome (resolve request.names check) st).1

/-- A category is found at the name after some others: the name stands for it, it has not been found before,
and the check says in the state of that time that it is available. -/
structure Finds (check : Source → Tracking σ Availability) (st : σ) (before : List String) (name : String)
    (s : Source) : Prop where
  named : ofName? name = some s
  new : s ∉ (search check before st).1
  available : (Tracking.outcome (check s) (search check before st).2).1.available = true

/-- Among names, a category is found at one before which the base has been found. -/
def FindsAfterBase (check : Source → Tracking σ Availability) (st : σ) (order : List String) : Prop :=
  ∃ before name after, order = before ++ name :: after ∧
    .generator ∈ (search check before st).1 ∧ ∃ s, Finds check st before name s

section Search

variable {check : Source → Tracking σ Availability} {st : σ} {order before : List String}
  {name : String} {s : Source}

@[simp] theorem search_nil : search check [] st = ([], st) := rfl

theorem search_snoc : search check (before ++ [name]) st =
    Tracking.outcome (consider check (search check before st).1 name) (search check before st).2 := by
  rw [search, List.foldlM_append, Tracking.outcome_bind]
  rfl

theorem resolved_eq (request : Request) :
    resolved check request st = withBase (search check (requestedNames request.names) st).1 := by
  rw [resolved, resolve, Tracking.outcome_bind]
  simp only [search]
  split <;> rfl

/-- What a name adds to what has been found: the category that is found at it, if one is. -/
theorem search_snoc_cases :
    (∃ s, Finds check st before name s ∧
      (search check (before ++ [name]) st).1 = (search check before st).1 ++ [s]) ∨
    ((∀ s, ¬ Finds check st before name s) ∧
      (search check (before ++ [name]) st).1 = (search check before st).1) := by
  rw [search_snoc, consider]
  cases hname : ofName? name with
  | none => exact .inr ⟨fun s h => by simp [h.named] at hname, rfl⟩
  | some s =>
    have honly : ∀ {t}, Finds check st before name t → Finds check st before name s := by
      intro t h
      obtain rfl : s = t := Option.some.inj (hname.symm.trans h.named)
      exact h
    by_cases hfound : s ∈ (search check before st).1
    · simp only [List.contains_iff_mem.mpr hfound]
      exact .inr ⟨fun t h => (honly h).new hfound, rfl⟩
    · simp only [List.contains_iff_mem, hfound, if_false, Tracking.outcome_bind]
      by_cases havailable :
          (Tracking.outcome (check s) (search check before st).2).1.available = true
      · rw [if_pos havailable]
        exact .inl ⟨s, ⟨hname, hfound, havailable⟩, rfl⟩
      · rw [if_neg havailable]
        exact .inr ⟨fun t h => havailable (honly h).available, rfl⟩

theorem nodup_search : (search check order st).1.Nodup := by
  induction order using List.reverseRecOn with
  | nil => simp
  | append_singleton before name ih =>
    rcases @search_snoc_cases σ check st before name with ⟨s, hs, heq⟩ | ⟨-, heq⟩
    · rw [heq, List.nodup_append]
      refine ⟨ih, by simp, fun t ht u hu htu => hs.new ?_⟩
      rwa [← List.mem_singleton.mp hu, ← htu]
    · rwa [heq]

/-! ## The place of the base -/

theorem getLast?_withBase (found : List Source) : (withBase found).getLast? = some .generator ↔
    (.generator ∈ found → found.getLast? = some .generator) := by
  rw [withBase]
  split
  next h => simp [List.contains_iff_mem.mp h]
  next h =>
    have hnot : .generator ∉ found := fun hmem => h (List.contains_iff_mem.mpr hmem)
    simp [hnot]

theorem findsAfterBase_snoc : FindsAfterBase check st (before ++ [name]) ↔
    FindsAfterBase check st before ∨
      .generator ∈ (search check before st).1 ∧ ∃ s, Finds check st before name s :=
  exists_split_snoc fun earlier n _ => Source.generator ∈ (search check earlier st).1 ∧
    ∃ s, Finds check st earlier n s

/-- Where the base is found, it is found last exactly if nothing is found after it. -/
theorem getLast?_search_iff :
    (.generator ∈ (search check order st).1 → (search check order st).1.getLast? = some .generator) ↔
      ¬ FindsAfterBase check st order := by
  induction order using List.reverseRecOn with
  | nil => simp [FindsAfterBase]
  | append_singleton before name ih =>
    rw [findsAfterBase_snoc, not_or, ← ih]
    rcases @search_snoc_cases σ check st before name with ⟨s, hs, heq⟩ | ⟨hnone, heq⟩
    · rw [heq, List.getLast?_concat, List.mem_append, List.mem_singleton]
      by_cases hbase : s = .generator
      · subst hbase
        simp [hs.new]
      · have hfinds : ∃ s, Finds check st before name s := ⟨s, hs⟩
        simp only [Option.some.injEq, hbase, Ne.symm hbase, or_false, hfinds, and_true, imp_false]
        exact ⟨fun hnot => ⟨fun hmem => absurd hmem hnot, hnot⟩, fun h => h.2⟩
    · rw [heq]
      simp [hnone]

end Search

/-- **The base is last unless a category is found after it.** For every request and every check, whatever its
answers depend on, the result ends with the base if and only if, once the base has been found at an entry of
the request, nothing else is found at a later one. -/
theorem getLast?_resolved_iff (check : Source → Tracking σ Availability) (request : Request) (st : σ) :
    (resolved check request st).getLast? = some .generator ↔
      ¬ FindsAfterBase check st (requestedNames request.names) := by
  rw [resolved_eq, getLast?_withBase, getLast?_search_iff]

/-- A request that names the base first, and everything is available. -/
theorem getLast?_resolved_baseFirst_ne :
    (resolved (fun _ => pure (.yes "present"))
      (some [.text "openapi-generator", .text "plugin-customizations"]) ()).getLast? ≠
        some .generator := by
  decide

/-! ## Checks that always say the same -/

/-- What is found of the categories that are named: those that are available, in the order in which they are
named first. -/
structure FoundInOrder (a : Source → Availability) (named found : List Source) : Prop where
  mem : ∀ s, s ∈ found ↔ s ∈ named ∧ (a s).available = true
  ordered : found.Pairwise fun s t => named.idxOf s < named.idxOf t

section Pure

variable {a : Source → Availability} {named found : List Source} {st : σ} {s t : Source}

/-- What is named later does not change the order. -/
theorem FoundInOrder.ordered_append (h : FoundInOrder a named found) (later : List Source) :
    found.Pairwise fun s t => (named ++ later).idxOf s < (named ++ later).idxOf t := by
  refine h.ordered.imp_of_mem fun {s t} hs ht hlt => ?_
  rwa [List.idxOf_append_of_mem ((h.mem s).mp hs).1, List.idxOf_append_of_mem ((h.mem t).mp ht).1]

/-- A category that is named and available and has not been found was not named before. -/
theorem FoundInOrder.snoc (h : FoundInOrder a named found) (hnew : s ∉ found)
    (havailable : (a s).available = true) : FoundInOrder a (named ++ [s]) (found ++ [s]) := by
  have hnamed : s ∉ named := fun hmem => hnew ((h.mem s).mpr ⟨hmem, havailable⟩)
  refine ⟨fun t => ?_, List.pairwise_append.mpr ⟨h.ordered_append [s], by simp, fun t ht u hu => ?_⟩⟩
  · rw [List.mem_append, List.mem_append, List.mem_singleton, h.mem, or_and_right]
    refine or_congr_right ⟨fun ht => ⟨ht, ht ▸ havailable⟩, fun ht => ht.1⟩
  · obtain rfl := List.mem_singleton.mp hu
    have htnamed := ((h.mem t).mp ht).1
    rw [List.idxOf_append_of_mem htnamed, List.idxOf_append_of_notMem hnamed]
    exact Nat.lt_of_lt_of_le (List.idxOf_lt_length_of_mem htnamed) (Nat.le_add_right _ _)

/-- A category that is named again, or is not available, is not added. -/
theorem FoundInOrder.passing (h : FoundInOrder a named found)
    (hpassed : (a s).available = true → s ∈ found) : FoundInOrder a (named ++ [s]) found := by
  refine ⟨fun t => ?_, h.ordered_append [s]⟩
  rw [List.mem_append, List.mem_singleton, h.mem]
  constructor
  · exact fun ⟨hnamed, havailable⟩ => ⟨.inl hnamed, havailable⟩
  · rintro ⟨hnamed | rfl, havailable⟩
    · exact ⟨hnamed, havailable⟩
    · exact (h.mem t).mp (hpassed havailable)

theorem foundInOrder_search (order : List String) :
    FoundInOrder a (order.filterMap ofName?)
      (search (fun s => (pure (a s) : Tracking σ Availability)) order st).1 := by
  induction order using List.reverseRecOn with
  | nil => exact ⟨by simp, .nil⟩
  | append_singleton before name ih =>
    rw [List.filterMap_append]
    rcases @search_snoc_cases σ (fun s => pure (a s)) st before name with ⟨s, hs, heq⟩ | ⟨hnone, heq⟩
    · rw [heq, List.filterMap_cons_some hs.named]
      exact ih.snoc hs.new hs.available
    · rw [heq]
      cases hname : ofName? name with
      | none => simpa [hname] using ih
      | some s =>
        rw [List.filterMap_cons_some hname]
        refine ih.passing fun havailable => ?_
        by_contra hnew
        exact hnone s ⟨hname, hnew, havailable⟩

/-- In a list whose members increase, members stand as they compare. -/
theorem idxOf_lt_iff_of_pairwise {f : Source → Nat} (h : found.Pairwise fun s t => f s < f t)
    (hs : s ∈ found) (ht : t ∈ found) : found.idxOf s < found.idxOf t ↔ f s < f t := by
  have hbefore : ∀ {s t}, s ∈ found → t ∈ found → found.idxOf s < found.idxOf t → f s < f t := by
    intro s t hs ht hlt
    have hpair := List.pairwise_iff_getElem.mp h _ _ (List.idxOf_lt_length_of_mem hs)
      (List.idxOf_lt_length_of_mem ht) hlt
    rwa [List.getElem_idxOf, List.getElem_idxOf] at hpair
  refine ⟨hbefore hs ht, fun hlt => ?_⟩
  rcases Nat.lt_trichotomy (found.idxOf s) (found.idxOf t) with hst | hst | hst
  · exact hst
  · rw [(List.idxOf_inj hs).mp hst] at hlt
    exact absurd hlt (Nat.lt_irrefl _)
  · exact absurd hlt (Nat.lt_asymm (hbefore ht hs hst))

theorem mem_withBase : s ∈ withBase found ↔ s ∈ found ∨ s = .generator := by
  rw [withBase]
  split
  next h =>
    refine ⟨.inl, ?_⟩
    rintro (hs | rfl)
    · exact hs
    · exact List.contains_iff_mem.mp h
  next => rw [List.mem_append, List.mem_singleton]

theorem nodup_withBase (h : found.Nodup) : (withBase found).Nodup := by
  rw [withBase]
  split
  next => exact h
  next hbase =>
    refine List.nodup_append.mpr ⟨h, by simp, fun s hs t ht hst => hbase ?_⟩
    rw [List.contains_iff_mem, ← List.mem_singleton.mp ht, ← hst]
    exact hs

/-- The base, where it is added, comes after everything that is found. -/
theorem idxOf_withBase (h : s ∈ found) : (withBase found).idxOf s = found.idxOf s := by
  rw [withBase]
  split
  next => rfl
  next => exact List.idxOf_append_of_mem h

end Pure

/-- **A request comes to what it asks for and is available.** If the check always says the same, the result
holds no category twice; a category other than the base is in it exactly if the request asks for it and it is
available; the base is in it once; and categories that are asked for and available stand in the order in which
the request names them first. -/
theorem resolved_of_pure_check (a : Source → Availability) (request : Request) (st : σ) :
    (resolved (fun s => pure (a s)) request st).Nodup ∧
      (∀ s ≠ .generator, s ∈ resolved (fun s => pure (a s)) request st ↔
        s ∈ request.asked ∧ (a s).available = true) ∧
      (resolved (fun s => pure (a s)) request st).count .generator = 1 ∧
      ∀ s t, s ∈ request.asked → t ∈ request.asked → (a s).available = true → (a t).available = true →
        ((resolved (fun s => pure (a s)) request st).idxOf s <
            (resolved (fun s => pure (a s)) request st).idxOf t ↔
          request.asked.idxOf s < request.asked.idxOf t) := by
  have hfound : FoundInOrder a ((requestedNames request.names).filterMap ofName?)
      (search (fun s => pure (a s)) (requestedNames request.names) st).1 := foundInOrder_search _
  rw [← request.asked_eq] at hfound
  rw [resolved_eq]
  have hnodup : (withBase (search (fun s => pure (a s)) (requestedNames request.names) st).1).Nodup :=
    nodup_withBase nodup_search
  refine ⟨hnodup, fun s hs => ?_, ?_, fun s t hs ht hsavailable htavailable => ?_⟩
  · rw [mem_withBase, or_iff_left hs, hfound.mem]
  · exact List.count_eq_one_of_mem hnodup (mem_withBase.mpr (.inr rfl))
  · have hsfound := (hfound.mem s).mpr ⟨hs, hsavailable⟩
    have htfound := (hfound.mem t).mpr ⟨ht, htavailable⟩
    rw [idxOf_withBase hsfound, idxOf_withBase htfound]
    exact idxOf_lt_iff_of_pairwise hfound.ordered hsfound htfound

end TemplateRules.Source
