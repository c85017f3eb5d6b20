import Mathlib.Logic.Relation
import TemplateRules.Proofs.Acceptance

/-!
# How deep the walk goes

The walk over a document goes from a rule to its fallback and to its conditions, and from a condition set to the
sets that are nested in it. A document may refer to its own parts, so these steps may lead in a circle. The walk
counts levels, separately for the fallbacks of a rule and for each of its condition sets, and where it succeeds no
more than a certain number of steps lead on from any rule or set that it has come to. A circle has no end of
steps, so the walk does not succeed where there is one.

## Main definitions

* `Structure.Leads`: one step of the walk, from a value to a part of it
* `Structure.NestsWithin`: fewer than a number of steps lead on from a value
* `Structure.Visits`: the rules and conditions at which the walk begins to count

## Main results

* `Structure.nestsWithin_of_walk`: where the walk succeeds, the values that it visits do not nest deeply
* `Structure.exists_walk_error_of_cycle`: the walk refuses a document with a circle of steps
-/

namespace TemplateRules.Structure

open Relation (ReflTransGen TransGen)

variable {ρ : Type} {view : View ρ}

/-! ## Steps -/

/-- The keys that the walk follows from a rule or a condition set. -/
def followedKeys : List String := ["fallback", "conditions", "allOf", "anyOf", "not"]

/-- A step from a value to a part of it: to what is under a key that the walk follows, or to an item of a
list. -/
inductive Leads (view : View ρ) : ρ → ρ → Prop
  | under {v part : ρ} {entries : List (Scalar × ρ)} {key : String} (hmap : view.layer v = .map entries)
    (hkey : key ∈ followedKeys) (hpart : lookupKey key entries = some part) : Leads view v part
  | item {v part : ρ} {items : List ρ} (hlist : view.layer v = .list items) (hpart : part ∈ items) :
    Leads view v part

/-- Fewer than `bound` steps lead on from a value, one after the other. -/
def NestsWithin (view : View ρ) : (bound : Nat) → ρ → Prop
  | 0, _ => False
  | bound + 1, v => ∀ part, Leads view v part → NestsWithin view bound part

theorem NestsWithin.mono {bound bound' : Nat} {v : ρ} (h : NestsWithin view bound v) (hle : bound ≤ bound') :
    NestsWithin view bound' v := by
  induction bound generalizing bound' v with
  | zero => exact h.elim
  | succ bound ih =>
    obtain ⟨bound', rfl⟩ : ∃ b, bound' = b + 1 := ⟨bound' - 1, by omega⟩
    exact fun part hpart => ih (h part hpart) (by omega)

/-- No circle can be reached from a value from which a bounded number of steps lead on. There is a first step,
on the way to the circle or in it, and the circle is still ahead after it. -/
theorem NestsWithin.not_transGen {bound : Nat} {v n : ρ} (h : NestsWithin view bound v)
    (hreach : ReflTransGen (Leads view) v n) : ¬ TransGen (Leads view) n n := by
  intro hcycle
  induction bound generalizing v with
  | zero => exact h
  | succ bound ih =>
    obtain ⟨next, hstep, hnext⟩ : ∃ next, Leads view v next ∧ ReflTransGen (Leads view) next n :=
      TransGen.head'_iff.mp (TransGen.trans_right hreach hcycle)
    exact ih (h next hstep) hnext

theorem nestsWithin_of_map {bound : Nat} {v : ρ} {entries : List (Scalar × ρ)}
    (hmap : view.layer v = .map entries)
    (hparts : ∀ key ∈ followedKeys, ∀ part, lookupKey key entries = some part → NestsWithin view bound part) :
    NestsWithin view (bound + 1) v := by
  rintro part (⟨hmap', hkey, hpart⟩ | ⟨hlist, -⟩)
  · obtain rfl := Layer.map.inj (hmap.symm.trans hmap')
    exact hparts _ hkey part hpart
  · simp [hmap] at hlist

theorem nestsWithin_of_list {bound : Nat} {v : ρ} {items : List ρ} (hlist : view.layer v = .list items)
    (hparts : ∀ part ∈ items, NestsWithin view bound part) : NestsWithin view (bound + 1) v := by
  rintro part (⟨hmap, -, -⟩ | ⟨hlist', hpart⟩)
  · simp [hlist] at hmap
  · obtain rfl := Layer.list.inj (hlist.symm.trans hlist')
    exact hparts part hpart

/-! ## Rules and conditions -/

theorem mem_of_lookupKey_of_known {names : List String} {entries : List (Scalar × ρ)} {key : String} {part : ρ}
    (hknown : ∀ e ∈ entries, isAmong names e.1 = true) (h : lookupKey key entries = some part) :
    key ∈ names := by
  simpa [isAmong] using hknown _ (mem_of_lookupKey h)

/-- A list whose items all pass a check that bounds them. -/
theorem nestsWithin_of_checkList {check : String → ρ → Walk} {bound : Nat} {path : String} {v : ρ}
    (h : checkList view check path v = .ok ())
    (hcheck : ∀ path part, check path part = .ok () → NestsWithin view bound part) :
    NestsWithin view (bound + 1) v := by
  obtain ⟨items, hlist, hitems⟩ := bind_eq_ok.mp h
  refine nestsWithin_of_list (requireList_eq_ok.mp hlist) fun part hpart => ?_
  obtain ⟨p, hp⟩ := checkItems_eq_ok hitems part hpart
  exact hcheck p part hp

/-- From a condition set two steps lead on for each level of nested sets. -/
theorem nestsWithin_of_walkConditions {limit : Int} {height : Nat} {path : String} {v : ρ}
    (h : walkConditions view limit height path v = .ok ()) : NestsWithin view (2 * height) v := by
  induction height generalizing path v with
  | zero => simp [walkConditions] at h
  | succ height ih =>
    obtain ⟨entries, hmap, hknown, hall, hany, hnot⟩ := walkConditions_succ_eq_ok.mp h
    rw [Nat.mul_succ]
    refine nestsWithin_of_map hmap fun key hkey part hpart => ?_
    have hmem := mem_of_lookupKey_of_known hknown hpart
    simp only [followedKeys, List.mem_cons, List.not_mem_nil, or_false] at hkey
    rcases hkey with rfl | rfl | rfl | rfl | rfl
    · simp [Section.keys, conditionKeys] at hmem
    · simp [Section.keys, conditionKeys] at hmem
    · exact nestsWithin_of_checkList (checkUnder_eq_ok.mp hall part hpart) fun _ _ => ih
    · exact nestsWithin_of_checkList (checkUnder_eq_ok.mp hany part hpart) fun _ _ => ih
    · exact (ih (checkUnder_eq_ok.mp hnot part hpart)).mono (by omega)

/-- The steps from the conditions of a rule. -/
def conditionSteps (limit : Int) : Nat := 2 * (limit + 1).toNat

/-- A rule whose keys are known leads to its conditions and to its fallback. -/
theorem nestsWithin_of_rule {s : Section} {limit : Int} {bound : Nat} {path : String} {v : ρ}
    {entries : List (Scalar × ρ)} (hmap : view.layer v = .map entries)
    (hkeys : checkKeys s path entries = .ok ())
    (hs : "allOf" ∉ s.keys ∧ "anyOf" ∉ s.keys ∧ "not" ∉ s.keys)
    (hconditions : walkRuleConditions view limit path entries = .ok ())
    (hfallback : "fallback" ∈ s.keys → ∀ part, lookupKey "fallback" entries = some part →
      NestsWithin view bound part) :
    NestsWithin view (max (conditionSteps limit) bound + 1) v := by
  refine nestsWithin_of_map hmap fun key hkey part hpart => ?_
  have hmem := mem_of_lookupKey_of_known (checkKeys_eq_ok.mp hkeys) hpart
  simp only [followedKeys, List.mem_cons, List.not_mem_nil, or_false] at hkey
  rcases hkey with rfl | rfl | rfl | rfl | rfl
  · exact (hfallback hmem part hpart).mono (Nat.le_max_right _ _)
  · exact (nestsWithin_of_walkConditions (checkUnder_eq_ok.mp hconditions part hpart)).mono
      (Nat.le_max_left _ _)
  · exact absurd hmem hs.1
  · exact absurd hmem hs.2.1
  · exact absurd hmem hs.2.2

/-- What is left for the fallbacks of a rule bounds the steps from its fallback. -/
theorem nestsWithin_of_fallback {limit : Int} {fallbacks steps : Nat} {path : String}
    {check : Nat → String → ρ → Walk} {entries : List (Scalar × ρ)}
    (h : checkUnder "fallback" entries (fun fallback =>
      match fallbacks with
      | 0 => .error (.longChain path limit)
      | left + 1 => check left (fallbackPath path) fallback) = .ok ())
    (hcheck : ∀ left, left < fallbacks → ∀ path v, check left path v = .ok () →
      NestsWithin view (left + steps + 1) v) :
    ∀ part, lookupKey "fallback" entries = some part → NestsWithin view (fallbacks + steps) part := by
  intro part hpart
  have hfallback := checkUnder_eq_ok.mp h part hpart
  cases fallbacks with
  | zero => simp at hfallback
  | succ left => exact (hcheck left (by omega) _ part hfallback).mono (by omega)

/-- From an insertion one step leads on for each fallback, and then those from conditions. -/
theorem nestsWithin_of_walkInsertion {limit : Int} {fallbacks : Nat} {path : String} {v : ρ}
    (h : walkInsertion view limit fallbacks path v = .ok ()) :
    NestsWithin view (fallbacks + conditionSteps limit + 1) v := by
  induction fallbacks using Nat.strongRecOn generalizing path v with
  | ind fallbacks ih =>
    obtain ⟨entries, hmap, h⟩ := bind_eq_ok.mp (walkInsertion.eq_def .. ▸ h)
    obtain ⟨⟨⟩, hkeys, h⟩ := bind_eq_ok.mp h
    obtain ⟨⟨⟩, hconditions, h⟩ := bind_eq_ok.mp h
    exact (nestsWithin_of_rule (requireMap_eq_ok.mp hmap) hkeys (by decide) hconditions
      fun _ => nestsWithin_of_fallback h fun left hleft _ _ => ih left hleft).mono (by omega)

theorem nestsWithin_of_walkReplacement {limit : Int} {fallbacks : Nat} {path : String} {v : ρ}
    (h : walkReplacement view limit fallbacks path v = .ok ()) :
    NestsWithin view (fallbacks + conditionSteps limit + 1) v := by
  induction fallbacks using Nat.strongRecOn generalizing path v with
  | ind fallbacks ih =>
    obtain ⟨entries, hmap, h⟩ := bind_eq_ok.mp (walkReplacement.eq_def .. ▸ h)
    obtain ⟨⟨⟩, -, h⟩ := bind_eq_ok.mp h
    obtain ⟨⟨⟩, -, h⟩ := bind_eq_ok.mp h
    obtain ⟨⟨⟩, hkeys, h⟩ := bind_eq_ok.mp h
    obtain ⟨⟨⟩, hconditions, h⟩ := bind_eq_ok.mp h
    exact (nestsWithin_of_rule (requireMap_eq_ok.mp hmap) hkeys (by decide) hconditions
      fun _ => nestsWithin_of_fallback h fun left hleft _ _ => ih left hleft).mono (by omega)

/-- A smart replacement has no fallback. -/
theorem nestsWithin_of_walkSmartReplacement {limit : Int} {path : String} {v : ρ}
    (h : walkSmartReplacement view limit path v = .ok ()) :
    NestsWithin view (conditionSteps limit + 1) v := by
  obtain ⟨entries, hmap, h⟩ := bind_eq_ok.mp h
  obtain ⟨⟨⟩, hkeys, h⟩ := bind_eq_ok.mp h
  obtain ⟨⟨⟩, -, hconditions⟩ := bind_eq_ok.mp h
  have hnone : "fallback" ∈ Section.smartReplacements.keys → ∀ part, lookupKey "fallback" entries = some part →
      NestsWithin view 0 part := fun hkey => absurd hkey (by decide)
  exact (nestsWithin_of_rule (requireMap_eq_ok.mp hmap) hkeys (by decide) hconditions hnone).mono (by omega)

/-- The fallback of a smart insertion counts as the first of a chain. -/
theorem nestsWithin_of_walkSmartInsertion {limit : Int} {path : String} {v : ρ}
    (h : walkSmartInsertion view limit path v = .ok ()) :
    NestsWithin view ((limit - 1).toNat + conditionSteps limit + 2) v := by
  obtain ⟨entries, hmap, h⟩ := bind_eq_ok.mp h
  obtain ⟨⟨⟩, hkeys, h⟩ := bind_eq_ok.mp h
  obtain ⟨⟨⟩, -, h⟩ := bind_eq_ok.mp h
  obtain ⟨⟨⟩, hconditions, h⟩ := bind_eq_ok.mp h
  exact (nestsWithin_of_rule (requireMap_eq_ok.mp hmap) hkeys (by decide) hconditions
    fun _ part hpart => nestsWithin_of_walkInsertion (checkUnder_eq_ok.mp h part hpart)).mono (by omega)

/-! ## Documents -/

/-- The keys of a document that list rules. -/
def ruleKeys : List String := ["insertions", "replacements", "smartReplacements", "smartInsertions"]

/-- The values at which the walk begins to count: the conditions of a document and its rules. -/
inductive Visits (view : View ρ) (root : ρ) : ρ → Prop
  | conditions {entries : List (Scalar × ρ)} {v : ρ} (hmap : view.layer root = .map entries)
    (hv : lookupKey "conditions" entries = some v) : Visits view root v
  | rule {entries : List (Scalar × ρ)} {key : String} {list v : ρ} {items : List ρ}
    (hmap : view.layer root = .map entries) (hkey : key ∈ ruleKeys) (hlist : lookupKey key entries = some list)
    (hitems : view.layer list = .list items) (hv : v ∈ items) : Visits view root v

theorem exists_check_of_walkRules {key : String} {check : String → ρ → Walk} {entries : List (Scalar × ρ)}
    {list v : ρ} {items : List ρ} (h : walkRules view key check entries = .ok ())
    (hlist : lookupKey key entries = some list) (hitems : view.layer list = .list items) (hv : v ∈ items) :
    ∃ path, check path v = .ok () := by
  obtain ⟨items', hitems', hcheck⟩ := listsRules_of_walkRules h list hlist
  obtain rfl := Layer.list.inj (hitems.symm.trans hitems')
  exact hcheck v hv

/-- The steps that may lead on from a rule. -/
def ruleSteps (limit : Int) : Nat := limit.toNat + conditionSteps limit + 2

/-- Where the walk succeeds, the values that it visits do not nest deeply. -/
theorem nestsWithin_of_walk {limit : Int} {root v : ρ} (h : walk view limit root = .ok ())
    (hv : Visits view root v) : NestsWithin view (ruleSteps limit) v := by
  obtain ⟨entries, hmap, -, -, hconditions, hinsertions, hreplacements, hsmartReplacements,
    hsmartInsertions, -⟩ := walk_eq_ok.mp h
  have hsteps : ruleSteps limit = limit.toNat + conditionSteps limit + 2 := rfl
  cases hv with
  | conditions hmap' hkey =>
    obtain rfl := Layer.map.inj (hmap.symm.trans hmap')
    exact (nestsWithin_of_walkConditions (checkUnder_eq_ok.mp hconditions v hkey)).mono (by
      rw [hsteps, conditionSteps]
      omega)
  | rule hmap' hkey hlist hitems hmem =>
    obtain rfl := Layer.map.inj (hmap.symm.trans hmap')
    simp only [ruleKeys, List.mem_cons, List.not_mem_nil, or_false] at hkey
    rcases hkey with rfl | rfl | rfl | rfl
    · obtain ⟨path, hpath⟩ := exists_check_of_walkRules hinsertions hlist hitems hmem
      exact (nestsWithin_of_walkInsertion hpath).mono (by omega)
    · obtain ⟨path, hpath⟩ := exists_check_of_walkRules hreplacements hlist hitems hmem
      exact (nestsWithin_of_walkReplacement hpath).mono (by omega)
    · obtain ⟨path, hpath⟩ := exists_check_of_walkRules hsmartReplacements hlist hitems hmem
      exact (nestsWithin_of_walkSmartReplacement hpath).mono (by omega)
    · obtain ⟨path, hpath⟩ := exists_check_of_walkRules hsmartInsertions hlist hitems hmem
      exact (nestsWithin_of_walkSmartInsertion hpath).mono (by omega)

/-- The walk refuses a document if the steps from what it visits lead into a circle. -/
theorem exists_walk_error_of_cycle {limit : Int} {root v n : ρ} (hv : Visits view root v)
    (hreach : ReflTransGen (Leads view) v n) (hcycle : TransGen (Leads view) n n) :
    ∃ cause, walk view limit root = .error cause := by
  cases hwalk : walk view limit root with
  | error cause => exact ⟨cause, rfl⟩
  | ok _ => exact absurd hcycle ((nestsWithin_of_walk hwalk hv).not_transGen hreach)

end TemplateRules.Structure
