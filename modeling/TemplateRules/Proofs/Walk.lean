import TemplateRules.Proofs.Outcome
import TemplateRules.Rule.Structure

/-!
# What the walk establishes

A document that passes the walk over its keys has no root key but those of a document, its rules are
given as lists, and no chain of fallbacks is longer than the limit.

## Main definitions

* `FallbacksWithin`: a value has at most so many fallbacks, one inside the other
* `Walked`: what the walk establishes for the rules of a document

## Main results

* `walkInsertion_within`, `walkReplacement_within`: the walk over a rule bounds its chain
* `walked_of_walk`: the walk over a document
-/

namespace TemplateRules.Structure

variable {ρ : Type} {view : View ρ}

/-- A value is a map with at most `budget` fallbacks, each inside the one before. -/
inductive FallbacksWithin (view : View ρ) : (budget : Nat) → ρ → Prop
  | last {budget : Nat} {v : ρ} {entries : List (Scalar × ρ)} (hmap : view.layer v = .map entries)
      (hnone : lookupKey "fallback" entries = none) : FallbacksWithin view budget v
  | more {budget : Nat} {v fallback : ρ} {entries : List (Scalar × ρ)}
      (hmap : view.layer v = .map entries) (hsome : lookupKey "fallback" entries = some fallback)
      (hrest : FallbacksWithin view budget fallback) : FallbacksWithin view (budget + 1) v

/-! ## Steps of the walk -/

theorem requireMap_eq_ok {path : String} {v : ρ} {entries : List (Scalar × ρ)} :
    requireMap view path v = .ok entries ↔ view.layer v = .map entries := by
  rw [requireMap]
  cases view.layer v <;> simp

theorem requireList_eq_ok {path : String} {v : ρ} {items : List ρ} :
    requireList view path v = .ok items ↔ view.layer v = .list items := by
  rw [requireList]
  cases view.layer v <;> simp

theorem checkUnder_eq_ok {key : String} {entries : List (Scalar × ρ)} {check : ρ → Walk} :
    checkUnder key entries check = .ok () ↔
      ∀ v, lookupKey key entries = some v → check v = .ok () := by
  rw [checkUnder]
  cases lookupKey key entries <;> simp

theorem checkItems_eq_ok {path : String} {check : String → ρ → Walk} {items : List ρ}
    (h : checkItems path check items = .ok ()) : ∀ v ∈ items, ∃ p, check p v = .ok () := by
  intro v hv
  obtain ⟨i, hi⟩ := List.mem_iff_getElem?.mp hv
  exact ⟨_, forM_eq_ok.mp h (v, i) (List.mk_mem_zipIdx_iff_getElem?.mpr hi)⟩

/-! ## Rules -/

theorem fallbacksWithin_of_none {budget : Nat} {v : ρ} {entries : List (Scalar × ρ)}
    (hmap : view.layer v = .map entries)
    (h : ∀ fallback, lookupKey "fallback" entries ≠ some fallback) :
    FallbacksWithin view budget v :=
  .last hmap (Option.eq_none_iff_forall_ne_some.mpr h)

theorem fallbacksWithin_of_some {budget : Nat} {v : ρ} {entries : List (Scalar × ρ)}
    (hmap : view.layer v = .map entries)
    (h : ∀ fallback, lookupKey "fallback" entries = some fallback →
      FallbacksWithin view budget fallback) : FallbacksWithin view (budget + 1) v := by
  cases hkey : lookupKey "fallback" entries with
  | none => exact .last hmap hkey
  | some fallback => exact .more hmap hkey (h fallback hkey)

theorem walkInsertion_within {limit : Int} {budget : Nat} {path : String} {v : ρ}
    (h : walkInsertion view limit budget path v = .ok ()) : FallbacksWithin view budget v := by
  induction budget generalizing path v with
  | zero =>
    obtain ⟨entries, hmap, h⟩ := bind_eq_ok.mp (walkInsertion.eq_def .. ▸ h)
    obtain ⟨_, -, h⟩ := bind_eq_ok.mp h
    obtain ⟨_, -, h⟩ := bind_eq_ok.mp h
    refine fallbacksWithin_of_none (requireMap_eq_ok.mp hmap) fun fallback hkey => ?_
    simpa using checkUnder_eq_ok.mp h fallback hkey
  | succ budget ih =>
    obtain ⟨entries, hmap, h⟩ := bind_eq_ok.mp (walkInsertion.eq_def .. ▸ h)
    obtain ⟨_, -, h⟩ := bind_eq_ok.mp h
    obtain ⟨_, -, h⟩ := bind_eq_ok.mp h
    exact fallbacksWithin_of_some (requireMap_eq_ok.mp hmap) fun fallback hkey =>
      ih (checkUnder_eq_ok.mp h fallback hkey)

theorem walkReplacement_within {limit : Int} {budget : Nat} {path : String} {v : ρ}
    (h : walkReplacement view limit budget path v = .ok ()) : FallbacksWithin view budget v := by
  induction budget generalizing path v with
  | zero =>
    obtain ⟨entries, hmap, h⟩ := bind_eq_ok.mp (walkReplacement.eq_def .. ▸ h)
    obtain ⟨_, -, h⟩ := bind_eq_ok.mp h
    obtain ⟨_, -, h⟩ := bind_eq_ok.mp h
    obtain ⟨_, -, h⟩ := bind_eq_ok.mp h
    obtain ⟨_, -, h⟩ := bind_eq_ok.mp h
    refine fallbacksWithin_of_none (requireMap_eq_ok.mp hmap) fun fallback hkey => ?_
    simpa using checkUnder_eq_ok.mp h fallback hkey
  | succ budget ih =>
    obtain ⟨entries, hmap, h⟩ := bind_eq_ok.mp (walkReplacement.eq_def .. ▸ h)
    obtain ⟨_, -, h⟩ := bind_eq_ok.mp h
    obtain ⟨_, -, h⟩ := bind_eq_ok.mp h
    obtain ⟨_, -, h⟩ := bind_eq_ok.mp h
    obtain ⟨_, -, h⟩ := bind_eq_ok.mp h
    exact fallbacksWithin_of_some (requireMap_eq_ok.mp hmap) fun fallback hkey =>
      ih (checkUnder_eq_ok.mp h fallback hkey)

/-- A smart insertion counts its fallback as the first of a chain. -/
theorem walkSmartInsertion_within {limit : Int} {path : String} {v : ρ}
    (h : walkSmartInsertion view limit path v = .ok ()) :
    ∃ entries, view.layer v = .map entries ∧ ∀ fallback, lookupKey "fallback" entries = some fallback →
      FallbacksWithin view (limit - 1).toNat fallback := by
  obtain ⟨entries, hmap, h⟩ := bind_eq_ok.mp h
  obtain ⟨_, -, h⟩ := bind_eq_ok.mp h
  obtain ⟨_, -, h⟩ := bind_eq_ok.mp h
  obtain ⟨_, -, h⟩ := bind_eq_ok.mp h
  exact ⟨entries, requireMap_eq_ok.mp hmap, fun fallback hkey =>
    walkInsertion_within (checkUnder_eq_ok.mp h fallback hkey)⟩

/-! ## Documents -/

/-- The rules under a key are listed, and each of them passes. -/
def ListsRules (view : View ρ) (entries : List (Scalar × ρ)) (key : String) (good : ρ → Prop) : Prop :=
  ∀ v, lookupKey key entries = some v → ∃ items, view.layer v = .list items ∧ ∀ item ∈ items, good item

theorem listsRules_of_walkRules {key : String} {check : String → ρ → Walk}
    {entries : List (Scalar × ρ)} (h : walkRules view key check entries = .ok ()) :
    ListsRules view entries key fun item => ∃ path, check path item = .ok () := by
  intro v hv
  obtain ⟨items, hlist, hitems⟩ := bind_eq_ok.mp (checkUnder_eq_ok.mp h v hv)
  exact ⟨items, requireList_eq_ok.mp hlist, checkItems_eq_ok hitems⟩

theorem ListsRules.imp {entries : List (Scalar × ρ)} {key : String} {good good' : ρ → Prop}
    (h : ListsRules view entries key good) (himp : ∀ v, good v → good' v) :
    ListsRules view entries key good' := by
  intro v hv
  obtain ⟨items, hlist, hitems⟩ := h v hv
  exact ⟨items, hlist, fun item hmem => himp item (hitems item hmem)⟩

/-- What the walk over a document establishes: its root keys are known, and its rules are listed with
chains within the limit. -/
structure Walked (view : View ρ) (limit : Int) (entries : List (Scalar × ρ)) : Prop where
  known : ∀ key, key ∉ rootKeys → lookupKey key entries = none
  insertions : ListsRules view entries "insertions" (FallbacksWithin view limit.toNat)
  replacements : ListsRules view entries "replacements" (FallbacksWithin view limit.toNat)
  smartInsertions : ListsRules view entries "smartInsertions" fun v =>
    ∃ fields, view.layer v = .map fields ∧ ∀ fallback, lookupKey "fallback" fields = some fallback →
      FallbacksWithin view (limit - 1).toNat fallback

theorem mem_of_lookupKey {entries : List (Scalar × ρ)} {key : String} {v : ρ}
    (h : lookupKey key entries = some v) : (.text key, v) ∈ entries := by
  induction entries with
  | nil => simp [lookupKey] at h
  | cons e rest ih =>
    obtain ⟨k, w⟩ := e
    rw [lookupKey] at h
    split at h
    · rename_i hk
      obtain rfl := Option.some.inj h
      rw [hk]
      exact List.mem_cons_self
    · exact List.mem_cons_of_mem _ (ih h)

theorem lookupKey_eq_none_of_known {names : List String} {entries : List (Scalar × ρ)} {key : String}
    (hknown : entries.find? (fun e => !isAmong names e.1) = none) (hkey : key ∉ names) :
    lookupKey key entries = none := by
  rw [Option.eq_none_iff_forall_ne_some]
  intro v hv
  have hamong := List.find?_eq_none.mp hknown _ (mem_of_lookupKey hv)
  simp [isAmong, hkey] at hamong

/-- A document that passes the walk is a map of which the walk establishes what is claimed of it. -/
theorem walked_of_walk {limit : Int} {root : ρ} (h : walk view limit root = .ok ()) :
    ∃ entries, view.layer root = .map entries ∧ Walked view limit entries := by
  rw [walk] at h
  split at h
  · simp at h
  · rename_i entries hmap
    refine ⟨entries, hmap, ?_⟩
    cases hfind : entries.find? fun e => !isAmong rootKeys e.1 with
    | some e =>
      rw [hfind] at h
      cases h
    | none =>
      rw [hfind] at h
      obtain ⟨_, -, h⟩ := bind_eq_ok.mp h
      obtain ⟨_, -, h⟩ := bind_eq_ok.mp h
      obtain ⟨_, hinsertions, h⟩ := bind_eq_ok.mp h
      obtain ⟨_, hreplacements, h⟩ := bind_eq_ok.mp h
      obtain ⟨_, -, h⟩ := bind_eq_ok.mp h
      obtain ⟨_, hsmart, -⟩ := bind_eq_ok.mp h
      exact {
        known := fun key hkey => lookupKey_eq_none_of_known hfind hkey
        insertions := (listsRules_of_walkRules hinsertions).imp fun _ ⟨_, h⟩ => walkInsertion_within h
        replacements := (listsRules_of_walkRules hreplacements).imp fun _ ⟨_, h⟩ =>
          walkReplacement_within h
        smartInsertions := (listsRules_of_walkRules hsmart).imp fun _ ⟨_, h⟩ =>
          walkSmartInsertion_within h }
  · simp at h

/-- The check accepts what passes the walk and has the shape of a document. -/
theorem check_eq_ok_iff {limit : Int} {source : String} {root : ρ} :
    check view limit source root = .ok () ↔ walk view limit root = .ok () ∧
      mismatches view (shapeDepth limit) (.form .document) root = [] := by
  rw [check]
  cases walk view limit root with
  | error cause => simp
  | ok _ =>
    cases mismatches view (shapeDepth limit) (.form .document) root with
    | nil => simp
    | cons m ms => cases hbest : bestOf m ms <;> simp [hbest]

end TemplateRules.Structure
