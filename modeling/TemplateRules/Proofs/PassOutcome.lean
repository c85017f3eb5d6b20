import TemplateRules.Proofs.WellFormed
import TemplateRules.Rule.Application

/-!
# Outcomes of a pass

What the parts of a pass return, without their records. Conditions always have an answer, a chain that is
not followed beyond the limit selects the first rule whose conditions hold, and of the edits of well-formed
rules only the replacement of pattern matches can fail.

## Main definitions

* `Pass.meets`: whether conditions hold in a pass
* `Pass.Overruns`: a chain is followed beyond the limit

## Main results

* `Pass.outcome_select`: the rule of a chain that is carried out, or the refusal of the chain
* `Replacement.edit_eq_error_iff`: the edit of a pattern rule
* `Pass.applyAll_eq_error_iff`: a pass over rules fails at the first rule that does
-/

namespace TemplateRules

open RuleDocument (WellFormed)

variable {p : Pass}

namespace Pass

/-- Whether conditions hold in a pass. -/
def meets (p : Pass) (conditions : Option ConditionSet) : Bool := (p.context.meets conditions).value

@[simp] theorem outcome_holds (conditions : Option ConditionSet) :
    (p.holds conditions).outcome = .ok (p.meets conditions) := rfl

@[simp] theorem outcome_expand (content : String) :
    (p.expand content).outcome = .ok (Partials.expanded content p.partials) := rfl

@[simp] theorem outcome_refuse {α : Type} (cause : CustomizationCause) :
    (p.refuse cause : Attempt α).outcome = .error (.customization ⟨p.template, cause⟩) := rfl

@[simp] theorem outcome_noteRule (level : Level) (text : String) :
    (noteRule level text).outcome = .ok () := rfl

@[simp] theorem outcome_noteStep (text : String) : (p.noteStep text).outcome = .ok () := by
  rw [noteStep]
  split <;> rfl

/-! ## Selection -/

section

variable {α : Type} {conditions : α → Option ConditionSet} {depth : Nat} {rules : List α}

/-- A chain that begins at a depth is followed beyond the limit: it has more rules than may be looked at, and
the conditions of none of those hold. -/
def Overruns (p : Pass) (conditions : α → Option ConditionSet) (depth : Nat) (rules : List α) : Prop :=
  (p.limit + 1 - depth).toNat < rules.length ∧
    ∀ rule ∈ rules.take (p.limit + 1 - depth).toNat, p.meets (conditions rule) = false

instance : Decidable (p.Overruns conditions depth rules) := inferInstanceAs (Decidable (_ ∧ _))

/-- The refusal of a chain that is followed beyond the limit. It gives the depth at which the chain is left, and
that is the first one that is too great. -/
def overrun (p : Pass) (depth : Nat) : Failure :=
  .customization ⟨p.template, .longChain p.limit (max depth (p.limit + 1).toNat)⟩

theorem overruns_cons_of_beyond {rule : α} (h : (depth : Int) > p.limit) :
    p.Overruns conditions depth (rule :: rules) := by
  have hzero : (p.limit + 1 - depth).toNat = 0 := by omega
  simp [Overruns, hzero]

theorem overruns_cons_of_within {rule : α} (h : ¬ (depth : Int) > p.limit) :
    p.Overruns conditions depth (rule :: rules) ↔
      p.meets (conditions rule) = false ∧ p.Overruns conditions (depth + 1) rules := by
  have hsucc : (p.limit + 1 - depth).toNat = (p.limit + 1 - (depth + 1 : Nat)).toNat + 1 := by omega
  rw [Overruns, Overruns, hsucc, List.length_cons, Nat.add_lt_add_iff_right, List.take_succ_cons,
    List.forall_mem_cons, and_left_comm]

/-- Of a chain the first rule whose conditions hold is carried out, unless the chain is followed beyond the
limit. The fallback lies one level deeper; the depth at which the chain is left stays the same. -/
theorem outcome_select (kind : String) :
    (p.select kind conditions depth rules).outcome =
      if p.Overruns conditions depth rules then .error (p.overrun depth)
      else .ok (rules.find? fun rule => p.meets (conditions rule)) := by
  induction rules generalizing depth with
  | nil => simp [select, Overruns]
  | cons rule fallbacks ih =>
    rw [select]
    by_cases hbeyond : (depth : Int) > p.limit
    · have hdepth : max depth (p.limit + 1).toNat = depth := by omega
      rw [if_pos hbeyond, if_pos (overruns_cons_of_beyond hbeyond), overrun, hdepth]
      simp [Attempt.outcome_bind]
    · rw [if_neg hbeyond]
      simp only [Attempt.outcome_bind, outcome_holds, ok_bind, overruns_cons_of_within hbeyond]
      cases hmeets : p.meets (conditions rule) with
      | true => simp [hmeets]
      | false =>
        have hdepth : p.overrun (depth + 1) = p.overrun depth := by
          have hmax : max (depth + 1) (p.limit + 1).toNat = max depth (p.limit + 1).toNat := by omega
          rw [overrun, overrun, hmax]
        cases fallbacks with
        | nil => simp [hmeets, Overruns]
        | cons next rest => simp [hmeets, Attempt.outcome_bind, ih, hdepth]

/-- A chain whose rules all lie within the limit is not followed beyond it. -/
theorem not_overruns (hdepth : (depth + rules.length : Int) ≤ p.limit + 1) :
    ¬ p.Overruns conditions depth rules := by
  rintro ⟨hlength, -⟩
  omega

end

end Pass

/-! ## Edits -/

/-- A pattern occurs in a text, and the replacement for its matches, once its partials are expanded, does
not go with it. -/
def Replacement.Breaks (p : Pass) (r : Replacement) (text : String) : Prop :=
  r.kind = .pattern ∧ ∃ pattern fault, Pattern.compile r.find = .ok pattern ∧
    pattern.occursIn text.toList = true ∧
    Pattern.replacementPieces (some Text.digitLimit) pattern.groups pattern.names
      (Partials.expanded r.replacement p.partials).toList = .error fault

theorem Edit.outcome_replaceMatches {pattern : Pattern} {text source replacement : String}
    (hcompile : Pattern.compile source = .ok pattern) :
    (Edit.replaceMatches text source replacement).outcome =
      if pattern.occursIn text.toList then
        (Edit.compileReplacement pattern replacement (some Text.digitLimit)).map fun pieces =>
          Edit.substituted pattern pieces text
      else .ok text := by
  simp only [Edit.replaceMatches, Attempt.outcome_bind, Attempt.outcome_liftM, Edit.compilePattern,
    hcompile, ok_bind]
  cases pattern.occursIn text.toList with
  | false => simp
  | true => simp

theorem Edit.compileReplacement_eq_error_iff {pattern : Pattern} {replacement : String} :
    (∃ e, Edit.compileReplacement pattern replacement (some Text.digitLimit) = .error e) ↔
      ∃ fault, Pattern.replacementPieces (some Text.digitLimit) pattern.groups pattern.names replacement.toList =
        .error fault := by
  rw [Edit.compileReplacement]
  split <;> simp [*]

theorem Replacement.edit_eq_error_iff {r : Replacement} {text : String} (hr : r.Compiles) :
    (∃ e, (r.edit p text).outcome = .error e) ↔ r.Breaks p text := by
  simp only [Replacement.edit, Attempt.outcome_bind, Pass.outcome_expand, ok_bind]
  cases hkind : r.kind with
  | literal => simp [Replacement.Breaks, hkind]
  | pattern =>
    obtain ⟨pattern, -, hcompile, -⟩ := hr hkind
    rw [Edit.outcome_replaceMatches hcompile]
    cases hoccurs : pattern.occursIn text.toList with
    | false => simp [Replacement.Breaks, hcompile, hoccurs]
    | true =>
      simp only [if_true, map_eq_error, Edit.compileReplacement_eq_error_iff]
      constructor
      · rintro ⟨fault, hfault⟩
        exact ⟨hkind, pattern, fault, hcompile, hoccurs, hfault⟩
      · rintro ⟨-, pattern', fault, hcompile', -, hfault⟩
        obtain rfl := Except.ok.inj (hcompile.symm.trans hcompile')
        exact ⟨fault, hfault⟩

theorem Replacement.not_breaks_of_expanded {r : Replacement} {text : String} (hr : r.Compiles)
    (hexpanded : Partials.expanded r.replacement p.partials = r.replacement) : ¬ r.Breaks p text := by
  rintro ⟨hkind, pattern, fault, hcompile, -, hfault⟩
  obtain ⟨pattern', pieces, hcompile', hpieces⟩ := hr hkind
  obtain rfl := Except.ok.inj (hcompile.symm.trans hcompile')
  rw [hexpanded, hpieces] at hfault
  simp at hfault

/-- A smart replacement fails if it has no target. -/
theorem SmartReplacement.edit_eq_error_iff {r : SmartReplacement} {text : String} {f : Failure} :
    (r.edit p text).outcome = .error f ↔
      ¬ r.Targeted ∧ f = .customization ⟨p.template, .noTarget⟩ := by
  simp only [SmartReplacement.edit, Attempt.outcome_bind, Pass.outcome_expand, ok_bind]
  cases hcandidates : r.candidates with
  | some candidates => simp [SmartReplacement.Targeted, hcandidates]
  | none =>
    cases hpoint : r.point with
    | some point => simp [SmartReplacement.Targeted, hpoint]
    | none =>
      cases hvariants : r.variants with
      | some found => simp [SmartReplacement.Targeted, hvariants]
      | none => simp [SmartReplacement.Targeted, hcandidates, hpoint, hvariants, eq_comm]

theorem SmartReplacement.exists_outcome_edit {r : SmartReplacement} (hr : r.Targeted)
    (text : String) : ∃ result, (r.edit p text).outcome = .ok result := by
  cases houtcome : (r.edit p text).outcome with
  | ok result => exact ⟨result, rfl⟩
  | error f => exact absurd hr (SmartReplacement.edit_eq_error_iff.mp houtcome).1

theorem Insertion.exists_outcome_atEdge (edge text content : String) :
    ∃ result, (Insertion.atEdge edge text content).outcome = .ok result := by
  simp only [Insertion.atEdge]
  split
  · exact ⟨_, rfl⟩
  · split <;> exact ⟨_, rfl⟩

/-- An insertion fails if it has no anchor. -/
theorem Insertion.edit_eq_error_iff {i : Insertion} {text : String} {f : Failure} :
    (i.edit p text).outcome = .error f ↔
      ¬ i.Anchored ∧ f = .customization ⟨p.template, .noAnchor⟩ := by
  simp only [Insertion.edit, Attempt.outcome_bind, Pass.outcome_expand, ok_bind]
  cases hafter : i.after with
  | some anchor => simp [Insertion.Anchored, hafter]
  | none =>
    cases hbefore : i.before with
    | some anchor => simp [Insertion.Anchored, hbefore]
    | none =>
      cases hedge : i.edge with
      | some edge =>
        obtain ⟨result, hresult⟩ := Insertion.exists_outcome_atEdge edge text
          (Partials.expanded i.content p.partials)
        simp [Insertion.Anchored, hedge, hresult]
      | none => simp [Insertion.Anchored, hafter, hbefore, hedge, eq_comm]

theorem Insertion.exists_outcome_edit {i : Insertion} (hi : i.Anchored) (text : String) :
    ∃ result, (i.edit p text).outcome = .ok result := by
  cases houtcome : (i.edit p text).outcome with
  | ok result => exact ⟨result, rfl⟩
  | error f => exact absurd hi (Insertion.edit_eq_error_iff.mp houtcome).1

/-- A smart insertion fails if it has no place. -/
theorem SmartInsertion.edit_eq_error_iff {i : SmartInsertion} {text : String} {f : Failure} :
    (i.edit p text).outcome = .error f ↔
      ¬ i.Placed ∧ f = .customization ⟨p.template, .noPlace⟩ := by
  simp only [SmartInsertion.edit, Attempt.outcome_bind, Pass.outcome_expand, ok_bind]
  cases hpoint : i.point with
  | some point => simp [SmartInsertion.Placed, hpoint]
  | none =>
    cases hlocations : i.locations with
    | some locations => simp [SmartInsertion.Placed, hlocations]
    | none => simp [SmartInsertion.Placed, hpoint, hlocations, eq_comm]

theorem SmartInsertion.exists_outcome_edit {i : SmartInsertion} (hi : i.Placed) (text : String) :
    ∃ result, (i.edit p text).outcome = .ok result := by
  cases houtcome : (i.edit p text).outcome with
  | ok result => exact ⟨result, rfl⟩
  | error f => exact absurd hi (SmartInsertion.edit_eq_error_iff.mp houtcome).1

/-! ## Rules of a pass -/

namespace Pass

theorem replacementStep_eq_error_iff {c : Chain Replacement} {position : Nat} {text : String}
    (hlength : (c.rules.length : Int) ≤ p.limit + 1) (hc : ∀ r ∈ c.rules, r.Compiles) :
    (∃ e, (p.replacementStep position c text).outcome = .error e) ↔
      ∃ r, c.rules.find? (fun r => p.meets r.conditions) = some r ∧ r.Breaks p text := by
  have hwithin : ¬ p.Overruns Replacement.conditions 0 c.rules := not_overruns (by omega)
  simp only [replacementStep, applyReplacement, selectReplacement, Attempt.outcome_bind,
    outcome_noteStep, outcome_select, if_neg hwithin, ok_bind]
  cases hfind : c.rules.find? fun r => p.meets r.conditions with
  | none => simp [carryOut]
  | some r => simp [carryOut, Replacement.edit_eq_error_iff (hc r (List.mem_of_find?_eq_some hfind))]

theorem exists_outcome_applySmartReplacement {r : SmartReplacement} (hr : r.Targeted)
    (text : String) : ∃ result, (p.applySmartReplacement r text).outcome = .ok result := by
  simp only [applySmartReplacement, Attempt.outcome_bind, outcome_holds, ok_bind]
  split
  · exact SmartReplacement.exists_outcome_edit hr text
  · exact ⟨text, rfl⟩

theorem exists_outcome_selectInsertion {depth : Nat} {rules : List Insertion}
    (hdepth : (depth + rules.length : Int) ≤ p.limit + 1) (hrules : ∀ i ∈ rules, i.Anchored)
    (text : String) : ∃ result, (p.selectInsertion depth rules >>= fun selected =>
      carryOut (Insertion.edit p) selected text).outcome = .ok result := by
  rw [selectInsertion, Attempt.outcome_bind, outcome_select, if_neg (not_overruns hdepth), ok_bind]
  cases hfind : rules.find? fun i => p.meets i.conditions with
  | none => exact ⟨text, rfl⟩
  | some i => exact Insertion.exists_outcome_edit (hrules i (List.mem_of_find?_eq_some hfind)) text

theorem exists_outcome_insertionStep {c : Chain Insertion}
    (hlength : (c.rules.length : Int) ≤ p.limit + 1) (hc : ∀ i ∈ c.rules, i.Anchored)
    (position : Nat) (text : String) :
    ∃ result, (p.insertionStep position c text).outcome = .ok result := by
  obtain ⟨result, hresult⟩ := exists_outcome_selectInsertion
    (show ((0 : Nat) + c.rules.length : Int) ≤ p.limit + 1 by omega) hc text
  rw [insertionStep, Attempt.outcome_bind, applyInsertion, hresult]
  simp

theorem exists_outcome_applySmartInsertion {i : SmartInsertion} (hplaced : i.Placed)
    (hlength : (i.fallbacks.length : Int) ≤ p.limit) (hi : ∀ f ∈ i.fallbacks, f.Anchored)
    (text : String) : ∃ result, (p.applySmartInsertion i text).outcome = .ok result := by
  simp only [applySmartInsertion, Attempt.outcome_bind, outcome_holds, ok_bind]
  split
  · exact SmartInsertion.exists_outcome_edit hplaced text
  · split
    · exact ⟨text, rfl⟩
    · exact exists_outcome_selectInsertion
        (show ((1 : Nat) + i.fallbacks.length : Int) ≤ p.limit + 1 by omega) hi text

/-! ## The pass -/

section

variable {α : Type} {apply : Nat → α → String → Attempt String}

/-- Rules that never fail do not fail one after the other. -/
theorem exists_outcome_applyAll {rules : List α}
    (h : ∀ rule ∈ rules, ∀ position text, ∃ result, (apply position rule text).outcome = .ok result)
    (position : Nat) (text : String) :
    ∃ result, (applyAll apply position rules text).outcome = .ok result := by
  induction rules generalizing position text with
  | nil => exact ⟨text, rfl⟩
  | cons rule rules ih =>
    obtain ⟨hrule, hrules⟩ := List.forall_mem_cons.mp h
    obtain ⟨next, hnext⟩ := hrule position text
    rw [applyAll, Attempt.outcome_bind, hnext]
    exact ih hrules (position + 1) next

/-- A pass over rules fails at the first rule that does, on the text that those before it have left. -/
theorem applyAll_eq_error_iff {rules : List α} {position : Nat} {text : String} {e : Failure} :
    (applyAll apply position rules text).outcome = .error e ↔
      ∃ before rule after left, rules = before ++ rule :: after ∧
        (applyAll apply position before text).outcome = .ok left ∧
        (apply (position + before.length) rule left).outcome = .error e := by
  induction rules generalizing position text with
  | nil => simp [applyAll]
  | cons rule rules ih =>
    rw [applyAll, Attempt.outcome_bind, bind_eq_error]
    constructor
    · rintro (h | ⟨next, hnext, h⟩)
      · exact ⟨[], rule, rules, text, rfl, rfl, h⟩
      · obtain ⟨before, rule', after, left, rfl, hleft, he⟩ := ih.mp h
        refine ⟨rule :: before, rule', after, left, rfl, ?_, ?_⟩
        · rw [applyAll, Attempt.outcome_bind, hnext]
          exact hleft
        · rwa [List.length_cons, Nat.add_comm before.length, ← Nat.add_assoc]
    · rintro ⟨_ | ⟨first, before⟩, rule', after, left, hsplit, hleft, he⟩
      · obtain ⟨rfl, rfl⟩ : rule = rule' ∧ rules = after := by simpa using hsplit
        obtain rfl : text = left := by simpa [applyAll] using hleft
        exact .inl he
      · obtain ⟨rfl, rfl⟩ : rule = first ∧ rules = before ++ rule' :: after := by simpa using hsplit
        rw [applyAll, Attempt.outcome_bind] at hleft
        obtain ⟨next, hnext, hleft⟩ := bind_eq_ok.mp hleft
        rw [List.length_cons, Nat.add_comm before.length, ← Nat.add_assoc] at he
        exact .inr ⟨next, hnext, ih.mpr ⟨before, rule', after, left, rfl, hleft, he⟩⟩

end

/-- The pass comes to a replacement that breaks: the replacements before it have been carried out, and
it is the one of its chain whose turn it is. -/
def Breaks (p : Pass) (d : RuleDocument) (template : String) : Prop :=
  p.meets d.conditions = true ∧ ∃ before c after text r, d.replacements = before ++ c :: after ∧
    (applyAll p.replacementStep 0 before template).outcome = .ok text ∧
    c.rules.find? (fun r => p.meets r.conditions) = some r ∧ r.Breaks p text

section

variable {d : RuleDocument} {template : String}

theorem exists_outcome_smartReplacements {limit : Nat} (hd : d.WellFormed limit) (text : String) :
    ∃ result, (applyAll (fun _ => p.applySmartReplacement) 0 d.smartReplacements text).outcome =
      .ok result :=
  exists_outcome_applyAll (fun r hr _ text =>
    exists_outcome_applySmartReplacement (hd.smartReplacements r hr) text) 0 text

theorem exists_outcome_insertions (hlimit : 0 ≤ p.limit) (hd : d.WellFormed p.limit.toNat)
    (text : String) :
    ∃ result, (applyAll p.insertionStep 0 d.insertions text).outcome = .ok result := by
  refine exists_outcome_applyAll (fun c hc position text => ?_) 0 text
  obtain ⟨hlength, hrules⟩ := hd.insertions c hc
  exact exists_outcome_insertionStep (by omega) hrules position text

theorem exists_outcome_smartInsertions (hlimit : 0 ≤ p.limit) (hd : d.WellFormed p.limit.toNat)
    (text : String) :
    ∃ result, (applyAll (fun _ => p.applySmartInsertion) 0 d.smartInsertions text).outcome =
      .ok result := by
  refine exists_outcome_applyAll (fun i hi position text => ?_) 0 text
  obtain ⟨hplaced, hlength, hrules⟩ := hd.smartInsertions i hi
  exact exists_outcome_applySmartInsertion hplaced (by omega) hrules text

theorem replacements_eq_error_iff (hlimit : 0 ≤ p.limit) (hd : d.WellFormed p.limit.toNat) :
    (∃ e, (applyAll p.replacementStep 0 d.replacements template).outcome = .error e) ↔
      ∃ before c after text r, d.replacements = before ++ c :: after ∧
        (applyAll p.replacementStep 0 before template).outcome = .ok text ∧
        c.rules.find? (fun r => p.meets r.conditions) = some r ∧ r.Breaks p text := by
  have hstep : ∀ c ∈ d.replacements, ∀ position text,
      (∃ e, (p.replacementStep position c text).outcome = .error e) ↔
        ∃ r, c.rules.find? (fun r => p.meets r.conditions) = some r ∧ r.Breaks p text := by
    intro c hc position text
    obtain ⟨hlength, hrules⟩ := hd.replacements c hc
    exact replacementStep_eq_error_iff (by omega) hrules
  constructor
  · rintro ⟨e, he⟩
    obtain ⟨before, c, after, text, hsplit, htext, herror⟩ := applyAll_eq_error_iff.mp he
    obtain ⟨r, hr⟩ := (hstep c (by simp [hsplit]) _ text).mp ⟨e, herror⟩
    exact ⟨before, c, after, text, r, hsplit, htext, hr⟩
  · rintro ⟨before, c, after, text, r, hsplit, htext, hr⟩
    obtain ⟨e, he⟩ := (hstep c (by simp [hsplit]) _ text).mpr ⟨r, hr⟩
    exact ⟨e, applyAll_eq_error_iff.mpr ⟨before, c, after, text, hsplit, htext, he⟩⟩

/-- What a pass returns: the template if the conditions of the document do not hold, and otherwise what the
kinds of rules leave, each of which goes on with the text of the one before. -/
theorem applyDocument_eq_ok_iff {text : String} : (p.applyDocument d template).outcome = .ok text ↔
    p.meets d.conditions = false ∧ template = text ∨
      p.meets d.conditions = true ∧ ∃ text₁ text₂ text₃,
        (applyAll p.replacementStep 0 d.replacements template).outcome = .ok text₁ ∧
        (applyAll (fun _ => p.applySmartReplacement) 0 d.smartReplacements text₁).outcome = .ok text₂ ∧
        (applyAll p.insertionStep 0 d.insertions text₂).outcome = .ok text₃ ∧
        (applyAll (fun _ => p.applySmartInsertion) 0 d.smartInsertions text₃).outcome = .ok text := by
  rw [applyDocument, Attempt.outcome_bind, outcome_holds, ok_bind]
  cases p.meets d.conditions with
  | false => simp
  | true => simp [Attempt.outcome_bind, bind_eq_ok, outcome_noteStep]

/-- A pass over a well-formed document within the limit fails if it comes to a replacement that
breaks. -/
theorem applyDocument_eq_error_iff (hlimit : 0 ≤ p.limit) (hd : d.WellFormed p.limit.toNat) :
    (∃ e, (p.applyDocument d template).outcome = .error e) ↔ p.Breaks d template := by
  rw [applyDocument, Attempt.outcome_bind, outcome_holds, ok_bind, Breaks]
  cases hmeets : p.meets d.conditions with
  | false => simp
  | true =>
    rw [← replacements_eq_error_iff hlimit hd, if_pos rfl, Attempt.outcome_bind]
    cases (applyAll p.replacementStep 0 d.replacements template).outcome with
    | error e => simp
    | ok text =>
      obtain ⟨text₁, h₁⟩ := exists_outcome_smartReplacements (p := p) hd text
      obtain ⟨text₂, h₂⟩ := exists_outcome_insertions hlimit hd text₁
      obtain ⟨text₃, h₃⟩ := exists_outcome_smartInsertions hlimit hd text₂
      simp [Attempt.outcome_bind, h₁, h₂, h₃]

end

end Pass

end TemplateRules
