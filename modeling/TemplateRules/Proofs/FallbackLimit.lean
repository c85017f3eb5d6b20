import TemplateRules.Proofs.ChainLengths
import TemplateRules.Proofs.PassFailures
import TemplateRules.Proofs.Plan

/-!
# The limit on fallbacks

Fallbacks are counted twice: when the structure of a document is checked, and when it is applied. A pass refuses a
chain if it has more fallbacks than the limit allows and none of the rules within the limit has its turn, and it
refuses nothing else for that reason. The check counts in the same way, so a document that it accepts with the same
limit is never refused by a pass, whatever the conditions of its rules come to.

The two do not agree where no fallbacks are allowed at all. The check counts the fallbacks of a smart insertion
from the first of them on and lets that one pass, and a pass counts them from the smart insertion on.

## Main definitions

* `Failure.OverLimit`: a chain has been followed beyond the limit
* `Context.Overruns`: a chain of a document is followed beyond the limit in a context
* `RuleDocument.Checked`: documents that are bound from what the check accepts

## Main results

* `Pass.overrunsIn_iff`: the chains of a plan are those that a pass follows
* `Engine.apply_overLimit_iff`: when applying a document is refused because of a chain
-/

namespace TemplateRules

/-- A failure says that a chain has been followed beyond the limit. -/
def Failure.OverLimit (f : Failure) : Prop :=
  ∃ template limit depth, f = .customization ⟨template, .longChain limit depth⟩

/-- A chain has more than `limit` fallbacks, and of its first rules, as many as the limit allows and the one that
they are fallbacks of, none has its turn. -/
def Context.Overruns (x : Context) (limit : Int) (chain : List GuardedEdit) : Prop :=
  limit + 1 < chain.length ∧ ∀ g ∈ chain.take (limit + 1).toNat, x.admits g.conditions = false

/-! ## Chains of a plan -/

namespace Pass

variable {p : Pass}

theorem overruns_map {α : Type} {guarded : α → GuardedEdit} {conditions : α → Option ConditionSet}
    (hconditions : ∀ rule, (guarded rule).conditions = conditions rule) (hlimit : 0 ≤ p.limit)
    {rules : List α} :
    p.context.Overruns p.limit (rules.map guarded) ↔ p.Overruns conditions 0 rules := by
  have hzero : (p.limit + 1 - (0 : Nat)).toNat = (p.limit + 1).toNat := by omega
  rw [Context.Overruns, Overruns, hzero, List.length_map, ← List.map_take, List.forall_mem_map]
  refine and_congr (by omega) (forall₂_congr fun rule _ => ?_)
  rw [hconditions]
  rfl

theorem overruns_chain {partials : Table String} {i : SmartInsertion} (hlimit : 0 ≤ p.limit) :
    p.context.Overruns p.limit (i.chain partials) ↔
      p.meets i.conditions = false ∧ p.Overruns Insertion.conditions 1 i.fallbacks := by
  have hsucc : (p.limit + 1).toNat = (p.limit + 1 - (1 : Nat)).toNat + 1 := by omega
  rw [Context.Overruns, Overruns, hsucc, SmartInsertion.chain, List.take_succ_cons, List.forall_mem_cons,
    List.length_cons, List.length_map, ← List.map_take, List.forall_mem_map, and_left_comm]
  refine and_congr Iff.rfl (and_congr (by omega) Iff.rfl)

/-- The chains of a document that a pass follows beyond the limit are those of its plan. -/
theorem overrunsIn_iff (hlimit : 0 ≤ p.limit) {d : RuleDocument} :
    p.OverrunsIn d ↔ ∃ chain ∈ d.chains, p.context.Overruns p.limit chain := by
  have hsmart : ¬ ∃ r ∈ d.smartReplacements, p.context.Overruns p.limit [r.guarded d.partials] := by
    rintro ⟨r, -, hlength, -⟩
    simp only [List.length_singleton] at hlength
    omega
  have hreplacements : ∀ c : Chain Replacement,
      p.context.Overruns p.limit (c.rules.map (Replacement.guarded d.partials)) ↔
        p.Overruns Replacement.conditions 0 c.rules := fun c => overruns_map (fun _ => rfl) hlimit
  have hinsertions : ∀ c : Chain Insertion,
      p.context.Overruns p.limit (c.rules.map (Insertion.guarded d.partials)) ↔
        p.Overruns Insertion.conditions 0 c.rules := fun c => overruns_map (fun _ => rfl) hlimit
  simp only [RuleDocument.chains, List.mem_append, or_and_right, exists_or, List.mem_map,
    exists_exists_and_eq_and, hreplacements, hinsertions, overruns_chain hlimit, hsmart, false_or, or_assoc,
    OverrunsIn]

/-- A pass that refuses a chain follows it beyond the limit. -/
theorem FailsWith.overrunsIn {d : RuleDocument} {template : String} {e : CustomizationError} {limit : Int}
    {depth : Nat} (h : p.FailsWith d template (.customization e)) (hcause : e.cause = .longChain limit depth) :
    p.OverrunsIn d := by
  cases h with
  | edit hf => exact absurd rfl (hf e)
  | overrun _ h => exact h
  | noTarget => simp at hcause
  | noAnchor => simp at hcause
  | noPlace => simp at hcause

/-- A pass over short chains follows none of them beyond the limit. -/
theorem not_overrunsIn_of_shortChains {d : RuleDocument} (hlimit : 0 ≤ p.limit)
    (hd : d.ShortChains p.limit.toNat) : ¬ p.OverrunsIn d := by
  rintro (⟨c, hc, hoverruns⟩ | ⟨c, hc, hoverruns⟩ | ⟨i, hi, -, hoverruns⟩)
  · have hlength := hd.replacements c hc
    exact not_overruns (by omega) hoverruns
  · have hlength := hd.insertions c hc
    exact not_overruns (by omega) hoverruns
  · have hlength := hd.smartInsertions i hi
    exact not_overruns (by omega) hoverruns

end Pass

/-- A document is bound from a graph or a value whose structure the check accepts. -/
inductive RuleDocument.Checked (limit : Int) (d : RuleDocument) : Prop
  | graph {g : Graph} {root : Ref} {source : String}
    (hcheck : Structure.check g.view limit source root = .ok ()) (hbound : ofValue (g.unfold root) = .ok d)
  | value {raw : Value} {source : String} (hcheck : Structure.check Value.view limit source raw = .ok ())
    (hbound : ofValue raw = .ok d)

theorem RuleDocument.Checked.shortChains {limit : Int} {d : RuleDocument} (h : d.Checked limit)
    (hlimit : 1 ≤ limit) : d.ShortChains limit.toNat := by
  cases h with
  | @graph g _ _ hcheck hbound =>
    exact shortChains_of_walk g.pictures hlimit ⟨_, rfl⟩ (Structure.check_eq_ok_iff.mp hcheck).1 hbound
  | value hcheck hbound =>
    exact shortChains_of_walk pictures_value hlimit rfl (Structure.check_eq_ok_iff.mp hcheck).1 hbound

/-! ## The engine -/

namespace Engine

variable {limit : Int} {template : String} {d : RuleDocument} {x : Context} {given : Option String}
  {f : Failure}

/-- What is refused because of a chain has such a chain. -/
theorem overrunsIn_of_overLimit {kept : Results}
    (h : (apply limit kept template (some d) x given).outcome = .error f) (hf : f.OverLimit) :
    Pass.OverrunsIn ⟨x.templateName given, limit, x, d.partials⟩ d := by
  obtain ⟨name, limit', depth, rfl⟩ := hf
  rw [outcome_apply_some] at h
  split at h
  · simp at h
  · rcases run_eq_error (map_eq_error.mp h) with ⟨defect, hdefect⟩ | hpass
    · simp at hdefect
    · exact (Pass.applyDocument_failure hpass).2.overrunsIn rfl

/-- A document with a chain that is followed beyond the limit is refused. -/
theorem exists_error_of_overrunsIn (template : String) (hmeets : x.admits d.conditions = true)
    (h : Pass.OverrunsIn ⟨x.templateName given, limit, x, d.partials⟩ d) :
    ∃ f, (apply limit .empty template (some d) x given).outcome = .error f := by
  cases houtcome : (apply limit .empty template (some d) x given).outcome with
  | error f => exact ⟨f, rfl⟩
  | ok result =>
    obtain ⟨text, hpass⟩ := exists_outcome_apply_empty.mp ⟨result.1, result.2, houtcome⟩
    exact absurd h (Pass.not_overrunsIn_of_eq_ok hmeets hpass)

/-- A document with one replacement, which has so many fallbacks, and asks every time for a letter that is not
there. -/
def withoutTurn (fallbacks : Nat) : RuleDocument where
  metadata := none
  conditions := none
  insertions := []
  replacements :=
    [⟨⟨"a", "b", .literal, some (containing "z")⟩,
      List.replicate fallbacks ⟨"a", "b", .literal, some (containing "z")⟩⟩]
  smartReplacements := []
  smartInsertions := []
  partials := []

/-- The document with one fallback as it is written. -/
def withoutTurnRaw : Value := .ofFields [("replacements", .list [.ofFields [
  ("find", .text "a"), ("replace", .text "b"), ("conditions", .ofFields [("templateContains", .text "z")]),
  ("fallback", .ofFields [
    ("find", .text "a"), ("replace", .text "b"),
    ("conditions", .ofFields [("templateContains", .text "z")])])]])]

end Engine

end TemplateRules
