import TemplateRules.Condition.Evaluation

/-!
# The records of conditions

Evaluating conditions leaves a record of every clause that fails, and a warning where a version constraint
cannot be read. All of these records are on the channel of conditions, so whatever else a pass leaves on
another channel comes from the rules that it carries out.

## Main definitions

* `Probing.OwnRecords`: probing that leaves records of conditions only

## Main results

* `ConditionSet.ownRecords_evaluate`: evaluation leaves records of conditions only
* `Context.channel_of_mem_records_meets`: so does asking whether a context meets conditions
-/

namespace TemplateRules

namespace Probing

variable {α β : Type}

/-- Probing that leaves records of conditions only, whatever is remembered. -/
def OwnRecords (check : Probing α) : Prop :=
  ∀ memo, ∀ r ∈ (check.run memo).records, r.channel = .conditions

theorem ownRecords_pure (a : α) : OwnRecords (pure a) := by
  intro memo r hr
  exact absurd hr (List.not_mem_nil)

theorem OwnRecords.bind {check : Probing α} {f : α → Probing β} (hcheck : OwnRecords check)
    (hf : ∀ a, OwnRecords (f a)) : OwnRecords (check >>= f) := by
  intro memo r hr
  rw [StateT.run_bind, Traced.records_bind] at hr
  exact (List.mem_append.mp hr).elim (hcheck memo r) (hf _ _ r)

theorem OwnRecords.ite {condition : Prop} [Decidable condition] {yes no : Probing α}
    (hyes : OwnRecords yes) (hno : OwnRecords no) : OwnRecords (if condition then yes else no) := by
  split
  · exact hyes
  · exact hno

theorem ownRecords_note (level : Level) (text : String) :
    OwnRecords (Traced.note level .conditions text : Probing Unit) := by
  intro memo r hr
  have hrecords : r ∈ [(⟨level, .conditions, text⟩ : Record)] := hr
  rw [List.mem_singleton.mp hrecords]

end Probing

open Probing

/-! ## Clauses -/

section Clauses

variable {ask : String → Probing Bool}

theorem ownRecords_clauseFails (text : String) : OwnRecords (clauseFails text) :=
  (ownRecords_note .debug text).bind fun _ => ownRecords_pure false

theorem ownRecords_allOrNote (hask : ∀ s, OwnRecords (ask s)) (record : String → String)
    (xs : List String) : OwnRecords (allOrNote ask record xs) := by
  induction xs with
  | nil => exact ownRecords_pure true
  | cons x xs ih => exact (hask x).bind fun _ => ih.ite (ownRecords_clauseFails _)

theorem ownRecords_anyOf (hask : ∀ s, OwnRecords (ask s)) (xs : List String) :
    OwnRecords (anyOf ask xs) := by
  induction xs with
  | nil => exact ownRecords_pure false
  | cons x xs ih => exact (hask x).bind fun _ => (ownRecords_pure true).ite ih

theorem ownRecords_versionMeets (constraint : String) (version : Option String) :
    OwnRecords (versionMeets constraint version) := by
  rw [versionMeets]
  split
  · exact ownRecords_pure _
  · exact (ownRecords_note .warning _).bind fun _ => ownRecords_pure false

theorem ownRecords_clause {α : Type} {check : α → Probing Bool} (hcheck : ∀ a, OwnRecords (check a))
    (value : Option α) : OwnRecords (clause value check) := by
  cases value with
  | none => exact ownRecords_pure true
  | some a => exact hcheck a

theorem ownRecords_orNote {check : Probing Bool} (hcheck : OwnRecords check) (record : String) :
    OwnRecords (orNote check record) :=
  hcheck.bind fun _ => (ownRecords_pure true).ite (ownRecords_clauseFails record)

theorem ownRecords_allInOrder {checks : List (Probing Bool)} (h : ∀ check ∈ checks, OwnRecords check) :
    OwnRecords (allInOrder checks) := by
  induction checks with
  | nil => exact ownRecords_pure true
  | cons check checks ih =>
    obtain ⟨hcheck, hchecks⟩ := List.forall_mem_cons.mp h
    exact hcheck.bind fun _ => (ih hchecks).ite (ownRecords_pure false)

end Clauses

namespace Context

/-- Probes into the snapshot leave no records. -/
theorem ownRecords_templateContains (x : Context) (probe : String) :
    OwnRecords (x.templateContains probe) := by
  intro memo
  rw [StateT.run, templateContains]
  split <;> simp

theorem ownRecords_hasFeature (x : Context) (feature : String) : OwnRecords (x.hasFeature feature) := by
  intro memo
  rw [StateT.run, hasFeature]
  split <;> simp

end Context

theorem Clauses.ownRecords_evaluate (x : Context) (c : Clauses) : OwnRecords (c.evaluate x) := by
  have hcontains := x.ownRecords_templateContains
  have hfeature := x.ownRecords_hasFeature
  refine ownRecords_allInOrder ?_
  simp only [checks, List.forall_mem_cons, List.not_mem_nil, false_implies, implies_true, and_true]
  exact ⟨ownRecords_clause (fun v => ownRecords_orNote (ownRecords_versionMeets v _) _) _,
    ownRecords_clause (fun p => ownRecords_orNote (hcontains p) _) _,
    ownRecords_clause (fun p => ownRecords_orNote ((hcontains p).bind fun _ => ownRecords_pure _) _) _,
    ownRecords_clause (fun ps => ownRecords_allOrNote hcontains _ ps) _,
    ownRecords_clause (fun ps => ownRecords_orNote (ownRecords_anyOf hcontains ps) _) _,
    ownRecords_clause (fun f => ownRecords_orNote (hfeature f) _) _,
    ownRecords_clause (fun fs => ownRecords_allOrNote hfeature _ fs) _,
    ownRecords_clause (fun fs => ownRecords_orNote (ownRecords_anyOf hfeature fs) _) _,
    ownRecords_clause (fun _ => ownRecords_orNote (ownRecords_pure _) _) _,
    ownRecords_clause (fun _ => ownRecords_orNote (ownRecords_pure _) _) _,
    ownRecords_clause (fun _ => ownRecords_orNote (ownRecords_pure _) _) _⟩

/-! ## Condition sets -/

namespace ConditionSet

mutual

theorem ownRecords_evaluate (x : Context) : ∀ c : ConditionSet, OwnRecords (c.evaluate x)
  | .mk clauses allOf anyOf negated => by
    rw [evaluate]
    refine (clauses.ownRecords_evaluate x).bind fun _ => (ownRecords_pure false).ite ?_
    refine (ownRecords_holdsAll x allOf).bind fun _ => (ownRecords_clauseFails _).ite ?_
    refine (ownRecords_holdsAny x anyOf).bind fun _ => (ownRecords_clauseFails _).ite ?_
    exact (ownRecords_holdsSome x negated).bind fun _ =>
      (ownRecords_clauseFails _).ite (ownRecords_pure true)

theorem ownRecords_holdsAll (x : Context) : ∀ cs : Option (List ConditionSet),
    OwnRecords (holdsAll x cs)
  | none => by
    rw [holdsAll]
    exact ownRecords_pure true
  | some cs => by
    rw [holdsAll]
    exact ownRecords_allHold x cs

theorem ownRecords_holdsAny (x : Context) : ∀ cs : Option (List ConditionSet),
    OwnRecords (holdsAny x cs)
  | none => by
    rw [holdsAny]
    exact ownRecords_pure true
  | some cs => by
    rw [holdsAny]
    exact ownRecords_anyHolds x cs

theorem ownRecords_holdsSome (x : Context) : ∀ c : Option ConditionSet, OwnRecords (holdsSome x c)
  | none => by
    rw [holdsSome]
    exact ownRecords_pure false
  | some c => by
    rw [holdsSome]
    exact ownRecords_evaluate x c

theorem ownRecords_allHold (x : Context) : ∀ cs : List ConditionSet, OwnRecords (allHold x cs)
  | [] => by
    rw [allHold]
    exact ownRecords_pure true
  | c :: cs => by
    rw [allHold]
    exact (ownRecords_evaluate x c).bind fun _ => (ownRecords_allHold x cs).ite (ownRecords_pure false)

theorem ownRecords_anyHolds (x : Context) : ∀ cs : List ConditionSet, OwnRecords (anyHolds x cs)
  | [] => by
    rw [anyHolds]
    exact ownRecords_pure false
  | c :: cs => by
    rw [anyHolds]
    exact (ownRecords_evaluate x c).bind fun _ => (ownRecords_pure true).ite (ownRecords_anyHolds x cs)

end

end ConditionSet

/-- What is recorded while conditions are looked at comes from the conditions. -/
theorem Context.channel_of_mem_records_meets {x : Context} {conditions : Option ConditionSet} {r : Record}
    (hr : r ∈ (x.meets conditions).records) : r.channel = .conditions := by
  have hown : OwnRecords (ConditionSet.evaluate? x conditions) := by
    cases conditions with
    | none => exact ownRecords_pure true
    | some c => exact c.ownRecords_evaluate x
  rw [Context.meets, Traced.records_bind, Traced.records_pure, List.append_nil] at hr
  exact hown .empty r hr

end TemplateRules
