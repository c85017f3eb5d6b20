import TemplateRules.Condition.Evaluation
import TemplateRules.Proofs.Placement

/-!
# The meaning of conditions

A condition set says something about the snapshot, the version of the generator, the properties and the
environment, and it says the same whenever it is asked. Evaluation finds that out with answers that it
remembers, which all the conditions of a context share, and it stops as soon as it can. The remembered
answers are those of the snapshot at all times, so nothing that has been asked before changes an answer.

## Main definitions

* `Context.Shows`, `Context.Exhibits`, `Context.RunsOn`, `Table.Satisfies`: what single clauses mean
* `Clauses.Hold`, `ConditionSet.Holds`: what condition sets mean
* `Memo.Faithful`: remembered answers that are those of the snapshot
* `Probing.Decides`: checks that answer a question from every faithful memo and leave one
* `Context.remembered`: the answers that a context remembers after some questions

## Main results

* `Probing.Decides.bind`: how checks that follow one another decide
* `ConditionSet.decides_evaluate`: evaluation decides what a condition set means
* `ConditionSet.evaluate_iff_holds`: so it does after any questions, and it remembers nothing wrong
-/

namespace TemplateRules

open Text

/-! ## Cutting a text at a mark -/

namespace Text

variable {mark : Char} {text before : String}

theorem bne_of_notMem {cs : List Char} (h : mark ∉ cs) : ∀ c ∈ cs, (c != mark) = true :=
  fun _ hc => bne_iff_ne.mpr fun heq => h (heq ▸ hc)

theorem cutAt?_of_notMem (h : mark ∉ text.toList) : cutAt? mark text = none := by
  simp [cutAt?, h]

/-- A text is cut at the first mark. -/
theorem cutAt?_append (h : mark ∉ before.toList) (after : String) :
    cutAt? mark (before ++ String.singleton mark ++ after) = some (before, after) := by
  have hlist : (before ++ String.singleton mark ++ after).toList =
      before.toList ++ mark :: after.toList := by simp
  rw [cutAt?, hlist, List.takeWhile_append_of_pos (bne_of_notMem h),
    List.dropWhile_append_of_pos (bne_of_notMem h)]
  simp

/-- A text with a mark has a first one. -/
theorem exists_first_mark (h : mark ∈ text.toList) : ∃ before after,
    text = before ++ String.singleton mark ++ after ∧ mark ∉ before.toList := by
  obtain ⟨before, after, hsplit, hfirst⟩ := List.eq_append_cons_of_mem h
  exact ⟨String.ofList before, String.ofList after, String.toList_inj.mp (by simpa using hsplit),
    by simpa using hfirst⟩

end Text

/-! ## The meaning of clauses -/

/-- What a specification asks of a table: `name=value` that the name has this value, and `name` alone that
it has a value that is not switched off, and that is not empty where `nonempty` asks for that. Blanks at the
ends of the name and of the value that is asked for do not count. -/
inductive Table.Satisfies (values : Table String) (nonempty : Bool) : String → Prop
  | value {name expected : String} (plain : '=' ∉ name.toList)
      (held : values.lookup (strip name) = some (strip expected)) :
      Satisfies values nonempty (name ++ "=" ++ expected)
  | name {name value : String} (given : name ≠ "") (plain : '=' ∉ name.toList)
      (held : values.lookup (strip name) = some value) (filled : nonempty = true → value ≠ "")
      (on : lower value ≠ "false") : Satisfies values nonempty name

namespace Context

/-- There is a snapshot and a text occurs in it. -/
def Shows (x : Context) (probe : String) : Prop := ∃ t, x.template = some t ∧ Occurs probe t

/-- The snapshot has a feature: one of the texts that show the feature occurs in it, or the table of answers
says so. Without a snapshot it is looked for in the empty text. -/
def Exhibits (x : Context) (feature : String) : Prop :=
  match x.detector with
  | .markers => ∃ probe ∈ Feature.probes feature, Occurs probe (x.template.getD "")
  | .answers table => table.lookup feature = some true

/-- The version of the generator is known and stands in the relation to a target that a constraint
writes, and the numerals of neither are too long. -/
def RunsOn (x : Context) (written : String) : Prop :=
  ∃ constraint version, Constraint.ofText? written = some constraint ∧
    x.generatorVersion = some version ∧ Version.isKnown (some version) = true ∧
    (Version.overlong? version = none ∧ Version.overlong? constraint.target = none) ∧
    constraint.comparison.holds (Version.ofText version).key (Version.ofText constraint.target).key = true

/-- The type of the build: a property, or else a variable of the environment. -/
def buildType? (x : Context) : Option String :=
  (x.properties.lookup "buildType").or (x.environment.lookup "BUILD_TYPE")

end Context

/-- What the plain clauses mean: each one that is present holds. -/
structure Clauses.Hold (x : Context) (c : Clauses) : Prop where
  generatorVersion : ∀ v, c.generatorVersion = some v → x.RunsOn v
  templateContains : ∀ s, c.templateContains = some s → x.Shows s
  templateNotContains : ∀ s, c.templateNotContains = some s → ¬ x.Shows s
  templateContainsAll : ∀ ss, c.templateContainsAll = some ss → ∀ s ∈ ss, x.Shows s
  templateContainsAny : ∀ ss, c.templateContainsAny = some ss → ∃ s ∈ ss, x.Shows s
  hasFeature : ∀ f, c.hasFeature = some f → x.Exhibits f
  hasAllFeatures : ∀ fs, c.hasAllFeatures = some fs → ∀ f ∈ fs, x.Exhibits f
  hasAnyFeatures : ∀ fs, c.hasAnyFeatures = some fs → ∃ f ∈ fs, x.Exhibits f
  projectProperty : ∀ spec, c.projectProperty = some spec → x.properties.Satisfies false spec
  environmentVariable : ∀ spec, c.environmentVariable = some spec → x.environment.Satisfies true spec
  buildType : ∀ t, c.buildType = some t → x.buildType? = some t

namespace ConditionSet

/-- The plain clauses of a condition set. -/
def clauses : ConditionSet → Clauses
  | .mk clauses _ _ _ => clauses

/-- What a condition set means: its plain clauses hold, and all sets under `allOf`, some set under `anyOf`
and not the set under `not`, each of these as far as it is present. -/
def Holds (x : Context) : ConditionSet → Prop
  | .mk clauses allOf anyOf negated =>
    clauses.Hold x ∧
      (∀ cs, (_hall : allOf = some cs) → ∀ c, (_hc : c ∈ cs) → c.Holds x) ∧
      (∀ cs, (_hany : anyOf = some cs) → ∃ c, ∃ _hc : c ∈ cs, c.Holds x) ∧
      ∀ c, (_hnot : negated = some c) → ¬ c.Holds x
termination_by c => sizeOf c
decreasing_by
  · subst _hall
    have := List.sizeOf_lt_of_mem _hc
    simp
    omega
  · subst _hany
    have := List.sizeOf_lt_of_mem _hc
    simp
    omega
  · subst _hnot
    simp
    omega

end ConditionSet

/-! ## Checks that decide -/

/-- Every answer that is remembered for a text says whether something holds of it. -/
def Remembers (answers : List (String × Bool)) (means : String → Prop) : Prop :=
  ∀ s answer, answers.lookup s = some answer → (answer = true ↔ means s)

theorem Remembers.nil {means : String → Prop} : Remembers [] means := fun _ _ h => by simp at h

theorem Remembers.cons {answers : List (String × Bool)} {means : String → Prop} {s : String}
    {answer : Bool} (h : Remembers answers means) (hanswer : answer = true ↔ means s) :
    Remembers ((s, answer) :: answers) means := by
  intro other given hgiven
  rw [List.lookup_cons] at hgiven
  split at hgiven
  · rename_i heq
    rw [eq_of_beq heq, ← hanswer, Option.some.inj hgiven]
  · exact h other given hgiven

/-- Every answer that is remembered is that of the snapshot. -/
structure Memo.Faithful (x : Context) (memo : Memo) : Prop where
  contained : Remembers memo.contained x.Shows
  features : Remembers memo.features x.Exhibits

theorem Memo.faithful_empty (x : Context) : Memo.empty.Faithful x := ⟨.nil, .nil⟩

namespace Probing

/-- From every faithful memo a check answers whether something holds, and it leaves a faithful memo. -/
structure Decides (x : Context) (check : Probing Bool) (p : Prop) : Prop where
  answer : ∀ {memo : Memo}, memo.Faithful x → ((check.run memo).value.1 = true ↔ p)
  faithful : ∀ {memo : Memo}, memo.Faithful x → (check.run memo).value.2.Faithful x

variable {x : Context} {check : Probing Bool} {p q : Prop}

theorem decides_pure (b : Bool) : Decides x (pure b) (b = true) := ⟨fun _ => Iff.rfl, id⟩

theorem decides_true : Decides x (pure true) True := ⟨fun _ => by simp, id⟩

theorem decides_false : Decides x (pure false) False := ⟨fun _ => by simp, id⟩

theorem Decides.congr (h : Decides x check p) (hiff : p ↔ q) : Decides x check q :=
  ⟨fun hmemo => (h.answer hmemo).trans hiff, h.faithful⟩

/-- A check that goes on after another one decides what it decides after either answer. -/
theorem Decides.bind {next : Bool → Probing Bool} (h : Decides x check p)
    (hyes : p → Decides x (next true) q) (hno : ¬ p → Decides x (next false) q) :
    Decides x (check >>= next) q := by
  have hnext : ∀ {memo : Memo}, memo.Faithful x → Decides x (next (check.run memo).value.1) q := by
    intro memo hmemo
    have hanswer := h.answer hmemo
    cases hb : (check.run memo).value.1 with
    | true => exact hyes (hanswer.mp hb)
    | false => exact hno fun hp => by simp [hb] at hanswer; exact hanswer hp
  exact ⟨fun hmemo => (hnext hmemo).answer (h.faithful hmemo),
    fun hmemo => (hnext hmemo).faithful (h.faithful hmemo)⟩

/-! ### Probes -/

variable (x) in
/-- A probe of the snapshot answers what it shows, whether the answer is remembered or looked up now. -/
theorem decides_templateContains (probe : String) :
    Decides x (x.templateContains probe) (x.Shows probe) := by
  have hlook : x.snapshotContains probe = true ↔ x.Shows probe := by
    rw [Context.snapshotContains, Context.Shows]
    cases x.template with
    | none => simp
    | some t => simp [contains_iff]
  refine ⟨fun hmemo => ?_, fun hmemo => ?_⟩ <;> rw [StateT.run, Context.templateContains]
  · split
    · rename_i answer hanswer
      exact hmemo.contained probe answer hanswer
    · exact hlook
  · split
    · exact hmemo
    · exact ⟨hmemo.contained.cons hlook, hmemo.features⟩

variable (x) in
theorem decides_hasFeature (feature : String) :
    Decides x (x.hasFeature feature) (x.Exhibits feature) := by
  have hlook : x.snapshotHasFeature feature = true ↔ x.Exhibits feature := by
    rw [Context.snapshotHasFeature, Context.Exhibits]
    cases x.detector with
    | markers => simp [Detector.hasFeature, Feature.isIn, contains_iff]
    | answers table => cases h : table.lookup feature <;> simp [Detector.hasFeature, h]
  refine ⟨fun hmemo => ?_, fun hmemo => ?_⟩ <;> rw [StateT.run, Context.hasFeature]
  · split
    · rename_i answer hanswer
      exact hmemo.features feature answer hanswer
    · exact hlook
  · split
    · exact hmemo
    · exact ⟨hmemo.contained, hmemo.features.cons hlook⟩

/-! ### Clauses -/

section Clauses

variable {ask : String → Probing Bool} {means : String → Prop}

/-- To leave a record is to remember nothing. -/
theorem decides_noted (level : Level) (text : String) :
    Decides x (do Traced.note level .conditions text; return false) False := ⟨fun _ => by simp, id⟩

theorem decides_clauseFails (text : String) : Decides x (clauseFails text) False :=
  decides_noted .debug text

theorem decides_orNote (h : Decides x check p) (record : String) : Decides x (orNote check record) p :=
  h.bind (fun hp => decides_true.congr (by simp [hp]))
    fun hp => (decides_clauseFails record).congr (by simp [hp])

theorem decides_allOrNote (hask : ∀ s, Decides x (ask s) (means s)) (record : String → String)
    (ss : List String) : Decides x (allOrNote ask record ss) (∀ s ∈ ss, means s) := by
  induction ss with
  | nil => exact decides_true.congr (by simp)
  | cons s ss ih =>
    exact (hask s).bind (fun hs => ih.congr (by simp [hs]))
      fun hs => (decides_clauseFails (record s)).congr (by simp [hs])

theorem decides_anyOf (hask : ∀ s, Decides x (ask s) (means s)) (ss : List String) :
    Decides x (anyOf ask ss) (∃ s ∈ ss, means s) := by
  induction ss with
  | nil => exact decides_false.congr (by simp)
  | cons s ss ih =>
    exact (hask s).bind (fun hs => decides_true.congr (by simp [hs])) fun hs => ih.congr (by simp [hs])

/-- A clause that is absent holds. -/
theorem decides_clause {α : Type} {value : Option α} {ask : α → Probing Bool} {means : α → Prop}
    (hask : ∀ a, Decides x (ask a) (means a)) :
    Decides x (clause value ask) (∀ a, value = some a → means a) := by
  cases value with
  | none => exact decides_true.congr (by simp)
  | some a => exact (hask a).congr (by simp)

theorem decides_not (h : Decides x check p) : Decides x (do return !(← check)) (¬ p) :=
  h.bind (fun hp => decides_false.congr (by simp [hp])) fun hp => decides_true.congr (by simp [hp])

theorem decides_allInOrder_nil : Decides x (allInOrder []) True := decides_true

/-- Checks in order decide whether each of them holds. -/
theorem Decides.andAll {checks : List (Probing Bool)} (h : Decides x check p)
    (hchecks : Decides x (allInOrder checks) q) : Decides x (allInOrder (check :: checks)) (p ∧ q) :=
  h.bind (fun hp => hchecks.congr (by simp [hp])) fun hp => decides_false.congr (by simp [hp])

end Clauses

end Probing

open Probing

/-! ## Plain clauses -/

theorem Constraint.overlong?_eq_none_iff {constraint : Constraint} {version : String}
    (hknown : Version.isKnown (some version) = true) : constraint.overlong? (some version) = none ↔
      Version.overlong? version = none ∧ Version.overlong? constraint.target = none := by
  simp [Constraint.overlong?, Option.filter, hknown]

/-- A version is found to satisfy a constraint if it is known, no numeral is too long, and the comparison
holds. -/
theorem judge_eq_ok_true_iff {x : Context} {written : String} :
    judge x.generatorVersion written = .ok true ↔ x.RunsOn written := by
  rw [judge, satisfies?, Context.RunsOn]
  cases hread : Constraint.ofText? written with
  | none => simp
  | some constraint =>
    cases x.generatorVersion with
    | none => simp [Constraint.overlong?, Constraint.admits]
    | some version =>
      cases hknown : Version.isKnown (some version) with
      | false => simp [Constraint.overlong?, Constraint.admits, Option.filter, hknown]
      | true =>
        have hlong := @Constraint.overlong?_eq_none_iff constraint version hknown
        cases hcount : constraint.overlong? (some version) with
        | none => simp [Constraint.admits, hcount, hknown, hlong.mp hcount]
        | some count =>
          have hnot := mt hlong.mpr (by simp [hcount])
          simp [hcount, hknown, hnot]

theorem decides_versionMeets (x : Context) (written : String) :
    Decides x (versionMeets written x.generatorVersion) (x.RunsOn written) := by
  rw [versionMeets]
  cases hjudge : judge x.generatorVersion written with
  | ok answer => exact (decides_pure answer).congr (by simp [← judge_eq_ok_true_iff, hjudge])
  | error fault => exact (decides_noted .warning _).congr (by simp [← judge_eq_ok_true_iff, hjudge])

namespace Table

variable {values : Table String} {nonempty : Bool} {name expected : String}

/-- There is one way to cut a specification at its first mark. -/
theorem satisfies_value_iff (hplain : '=' ∉ name.toList) :
    values.Satisfies nonempty (name ++ "=" ++ expected) ↔
      values.lookup (strip name) = some (strip expected) := by
  refine ⟨fun h => ?_, .value hplain⟩
  generalize hspec : name ++ "=" ++ expected = spec at h
  cases h with
  | @value name' expected' hplain' held =>
    have hcut : some (name, expected) = some (name', expected') := by
      rw [← cutAt?_append hplain expected, ← cutAt?_append hplain' expected']
      exact congrArg (cutAt? '=') hspec
    obtain ⟨rfl, rfl⟩ := Prod.mk.inj (Option.some.inj hcut)
    exact held
  | name _ hplain' => exact absurd (by simp [← hspec]) hplain'

theorem satisfies_name_iff (hgiven : name ≠ "") (hplain : '=' ∉ name.toList) :
    values.Satisfies nonempty name ↔ ∃ value, values.lookup (strip name) = some value ∧
      (nonempty = true → value ≠ "") ∧ lower value ≠ "false" := by
  refine ⟨fun h => ?_, fun ⟨value, held, filled, on⟩ => .name hgiven hplain held filled on⟩
  cases h with
  | value => exact absurd (by simp) hplain
  | name _ _ held filled on => exact ⟨_, held, filled, on⟩

theorem not_satisfies_empty : ¬ values.Satisfies nonempty "" := by
  intro h
  generalize hspec : "" = spec at h
  cases h with
  | value => exact absurd (congrArg String.toList hspec) (by simp)
  | name given => exact given hspec.symm

/-- To satisfy a specification is to be looked up and found to do so. -/
theorem satisfies_iff {spec : String} : values.Satisfies nonempty spec ↔
    (!spec.isEmpty && Context.satisfiesSpec values nonempty spec) = true := by
  by_cases hempty : spec = ""
  · subst hempty
    simp [not_satisfies_empty]
  have hgiven : spec.isEmpty = false := by simpa using hempty
  rw [hgiven, Bool.not_false, Bool.true_and, Context.satisfiesSpec]
  by_cases hmark : '=' ∈ spec.toList
  · obtain ⟨name, expected, rfl, hplain⟩ := exists_first_mark hmark
    rw [cutAt?_append hplain]
    simpa using satisfies_value_iff hplain
  · rw [cutAt?_of_notMem hmark, satisfies_name_iff hempty hmark]
    cases values.lookup (strip spec) with
    | none => simp
    | some value => simp [Context.isOff, Classical.or_iff_not_imp_left]

end Table

namespace Clauses

/-- Evaluating plain clauses decides what they mean. -/
theorem decides_evaluate (x : Context) (c : Clauses) : Decides x (c.evaluate x) (c.Hold x) := by
  have hshows := decides_templateContains x
  have hexhibits := decides_hasFeature x
  have hproperty : ∀ spec, Decides x (pure (x.hasProperty spec)) (x.properties.Satisfies false spec) :=
    fun spec => (decides_pure _).congr Table.satisfies_iff.symm
  have hvariable : ∀ spec, Decides x (pure (x.hasVariable spec)) (x.environment.Satisfies true spec) :=
    fun spec => (decides_pure _).congr Table.satisfies_iff.symm
  have hall : Decides x (c.evaluate x) _ :=
    (decides_clause fun v => decides_orNote (decides_versionMeets x v) _).andAll <|
    (decides_clause fun s => decides_orNote (hshows s) _).andAll <|
    (decides_clause fun s => decides_orNote (decides_not (hshows s)) _).andAll <|
    (decides_clause fun ss => decides_allOrNote hshows _ ss).andAll <|
    (decides_clause fun ss => decides_orNote (decides_anyOf hshows ss) _).andAll <|
    (decides_clause fun f => decides_orNote (hexhibits f) _).andAll <|
    (decides_clause fun fs => decides_allOrNote hexhibits _ fs).andAll <|
    (decides_clause fun fs => decides_orNote (decides_anyOf hexhibits fs) _).andAll <|
    (decides_clause fun spec => decides_orNote (hproperty spec) _).andAll <|
    (decides_clause fun spec => decides_orNote (hvariable spec) _).andAll <|
    (decides_clause fun t => decides_orNote ((decides_pure _).congr decide_eq_true_iff) _).andAll <|
    decides_allInOrder_nil
  refine hall.congr ⟨?_, ?_⟩
  · rintro ⟨h₁, h₂, h₃, h₄, h₅, h₆, h₇, h₈, h₉, h₁₀, h₁₁, -⟩
    exact ⟨h₁, h₂, h₃, h₄, h₅, h₆, h₇, h₈, h₉, h₁₀, h₁₁⟩
  · intro h
    exact ⟨h.1, h.2, h.3, h.4, h.5, h.6, h.7, h.8, h.9, h.10, h.11, trivial⟩

end Clauses

/-! ## Condition sets -/

namespace ConditionSet

theorem holds_mk {x : Context} {clauses : Clauses} {allOf anyOf : Option (List ConditionSet)}
    {negated : Option ConditionSet} : (mk clauses allOf anyOf negated).Holds x ↔ clauses.Hold x ∧
      (∀ cs, allOf = some cs → ∀ c ∈ cs, c.Holds x) ∧ (∀ cs, anyOf = some cs → ∃ c ∈ cs, c.Holds x) ∧
      ∀ c, negated = some c → ¬ c.Holds x := by
  rw [Holds]
  simp only [exists_prop]

/-- A condition set holds only if its plain clauses do. Evaluation nests as condition sets do, so that the six
evaluators are looked at together. -/
theorem Holds.hold {x : Context} {c : ConditionSet} (h : c.Holds x) : c.clauses.Hold x := by
  cases c
  exact (holds_mk.mp h).1

mutual

/-- Evaluation decides what a condition set means. -/
theorem decides_evaluate (x : Context) : ∀ c : ConditionSet, Decides x (c.evaluate x) (c.Holds x)
  | .mk clauses allOf anyOf negated => by
    rw [evaluate]
    refine (clauses.decides_evaluate x).bind (fun hclauses => ?_)
      fun hclauses => decides_false.congr (by simp [holds_mk, hclauses])
    refine (decides_holdsAll x allOf).bind (fun hall => ?_)
      fun hall => (decides_clauseFails _).congr (by simp only [holds_mk, hall, false_and, and_false])
    refine (decides_holdsAny x anyOf).bind (fun hany => ?_)
      fun hany => (decides_clauseFails _).congr (by simp only [holds_mk, hany, false_and, and_false])
    refine (decides_holdsSome x negated).bind
      (fun hsome => (decides_clauseFails _).congr ?_) fun hsome => decides_true.congr ?_
    · obtain ⟨c, hc, hholds⟩ := hsome
      exact iff_of_false id fun h => (holds_mk.mp h).2.2.2 c hc hholds
    · refine iff_of_true trivial (holds_mk.mpr ⟨hclauses, hall, hany, fun c hc hholds => ?_⟩)
      exact hsome ⟨c, hc, hholds⟩

theorem decides_holdsAll (x : Context) : ∀ cs : Option (List ConditionSet),
    Decides x (holdsAll x cs) (∀ l, cs = some l → ∀ c ∈ l, c.Holds x)
  | none => by
    rw [holdsAll]
    exact decides_true.congr (by simp)
  | some cs => by
    rw [holdsAll]
    exact (decides_allHold x cs).congr (by simp)

theorem decides_holdsAny (x : Context) : ∀ cs : Option (List ConditionSet),
    Decides x (holdsAny x cs) (∀ l, cs = some l → ∃ c ∈ l, c.Holds x)
  | none => by
    rw [holdsAny]
    exact decides_true.congr (by simp)
  | some cs => by
    rw [holdsAny]
    exact (decides_anyHolds x cs).congr (by simp)

theorem decides_holdsSome (x : Context) : ∀ c : Option ConditionSet,
    Decides x (holdsSome x c) (∃ s, c = some s ∧ s.Holds x)
  | none => by
    rw [holdsSome]
    exact decides_false.congr (by simp)
  | some c => by
    rw [holdsSome]
    exact (decides_evaluate x c).congr (by simp)

theorem decides_allHold (x : Context) : ∀ cs : List ConditionSet,
    Decides x (allHold x cs) (∀ c ∈ cs, c.Holds x)
  | [] => by
    rw [allHold]
    exact decides_true.congr (by simp)
  | c :: cs => by
    rw [allHold]
    exact (decides_evaluate x c).bind (fun hc => (decides_allHold x cs).congr (by simp [hc]))
      fun hc => decides_false.congr (by simp [hc])

theorem decides_anyHolds (x : Context) : ∀ cs : List ConditionSet,
    Decides x (anyHolds x cs) (∃ c ∈ cs, c.Holds x)
  | [] => by
    rw [anyHolds]
    exact decides_false.congr (by simp)
  | c :: cs => by
    rw [anyHolds]
    exact (decides_evaluate x c).bind (fun hc => decides_true.congr (by simp [hc]))
      fun hc => (decides_anyHolds x cs).congr (by simp [hc])

end

end ConditionSet

namespace Context

/-- A context meets conditions if what they mean holds, and absent ones always. -/
theorem meets_iff (x : Context) (conditions : Option ConditionSet) :
    (x.meets conditions).value = true ↔ ∀ c, conditions = some c → c.Holds x := by
  cases conditions with
  | none => exact iff_of_true rfl (by simp)
  | some c =>
    exact ((c.decides_evaluate x).answer (Memo.faithful_empty x)).trans (by simp)

/-! ## Questions -/

/-- What a context can be asked. -/
inductive Question where
  | contains (probe : String)
  | feature (name : String)
  | conditions (c : ConditionSet)

/-- The answer to a question, with the answers that are remembered before and after. -/
def ask (x : Context) : Question → Probing Bool
  | .contains probe => x.templateContains probe
  | .feature name => x.hasFeature name
  | .conditions c => c.evaluate x

/-- What a context remembers after some questions, from nothing at first. -/
def remembered (x : Context) (asked : List Question) : Memo :=
  asked.foldl (fun memo question => ((x.ask question).run memo).value.2) .empty

theorem faithful_ask {x : Context} {memo : Memo} (h : memo.Faithful x) (question : Question) :
    ((x.ask question).run memo).value.2.Faithful x := by
  cases question with
  | contains probe => exact (decides_templateContains x probe).faithful h
  | feature name => exact (decides_hasFeature x name).faithful h
  | conditions c => exact (c.decides_evaluate x).faithful h

theorem remembered_append (x : Context) (asked : List Question) (question : Question) :
    x.remembered (asked ++ [question]) = ((x.ask question).run (x.remembered asked)).value.2 := by
  rw [remembered, List.foldl_append]
  rfl

/-- Whatever is asked, nothing wrong is remembered. -/
theorem faithful_remembered (x : Context) (asked : List Question) : (x.remembered asked).Faithful x := by
  induction asked using List.reverseRecOn with
  | nil => exact Memo.faithful_empty x
  | append_singleton asked question ih =>
    rw [remembered_append]
    exact faithful_ask ih question

/-- A constraint that cannot be read does not hold, and none holds of a version that is not known. -/
theorem not_runsOn {x : Context} {written : String}
    (h : Constraint.ofText? written = none ∨ Version.isKnown x.generatorVersion = false) :
    ¬ x.RunsOn written := by
  rintro ⟨constraint, version, hread, hversion, hknown, -⟩
  rcases h with h | h
  · simp [h] at hread
  · rw [hversion, hknown] at h
    exact Bool.noConfusion h

end Context

/-- **Evaluation finds out what a condition set means.** Whatever a context has been asked before, it has an
answer, which is yes exactly if the set holds; in particular it is no if the clause on the version has a
constraint that cannot be read or meets a version that is not known. What is remembered then is what the
context remembers after one question more, and nothing of it is wrong. -/
theorem ConditionSet.evaluate_iff_holds (x : Context) (asked : List Context.Question) (c : ConditionSet) :
    ∃ answer memo, ((c.evaluate x).run (x.remembered asked)).value = (answer, memo) ∧
      (answer = true ↔ c.Holds x) ∧
      (memo = x.remembered (asked ++ [.conditions c]) ∧ memo.Faithful x) ∧
      ∀ written, c.clauses.generatorVersion = some written →
        Constraint.ofText? written = none ∨ Version.isKnown x.generatorVersion = false → answer = false := by
  have hdecides := c.decides_evaluate x
  have hfaithful := x.faithful_remembered asked
  have hanswer := hdecides.answer hfaithful
  refine ⟨_, _, rfl, hanswer,
    ⟨(x.remembered_append asked (.conditions c)).symm, hdecides.faithful hfaithful⟩, ?_⟩
  intro written hwritten hunmet
  refine Bool.eq_false_iff.mpr fun hyes => ?_
  have hversion := (hanswer.mp hyes).hold.generatorVersion written hwritten
  exact Context.not_runsOn hunmet hversion

/-- That the template has a letter and that the generator is recent or the template has another letter. -/
def recentOrMarked : ConditionSet :=
  .mk ⟨none, some "a", none, none, none, none, none, none, none, none, none⟩ none
    (some [.mk ⟨some ">=1.0", none, none, none, none, none, none, none, none, none, none⟩ none none none,
      .mk ⟨none, some "b", none, none, none, none, none, none, none, none, none⟩ none none none]) none

/-- That the generator is recent and the other set does not hold. -/
def recentUnmarked : ConditionSet :=
  .mk ⟨some ">=1.0", none, none, none, none, none, none, none, none, none, none⟩ none none
    (some recentOrMarked)

/-- A context without a version. -/
def unversionedContext : Context := ⟨none, some "ab", [], [], .markers⟩

/-- Answers that are remembered from one set do not change the answers for another one. -/
theorem evaluate_recentUnmarked : recentOrMarked.Holds unversionedContext ∧
    ((recentUnmarked.evaluate unversionedContext).run
      (unversionedContext.remembered [.contains "a", .conditions recentOrMarked])).value.1 = false ∧
    ¬ recentUnmarked.Holds unversionedContext := by
  obtain ⟨_, _, hmarked, hmarkedHolds, -⟩ :=
    recentOrMarked.evaluate_iff_holds unversionedContext [.contains "a"]
  obtain ⟨answer, memo, hrun, hholds, -, hversion⟩ :=
    recentUnmarked.evaluate_iff_holds unversionedContext [.contains "a", .conditions recentOrMarked]
  have hno : answer = false := hversion ">=1.0" rfl (.inr rfl)
  refine ⟨hmarkedHolds.mp ?_, by rw [hrun, hno], fun h => ?_⟩
  · exact (congrArg Prod.fst hmarked).symm.trans (by decide +kernel)
  · rw [hno] at hholds
    exact Bool.noConfusion (hholds.mpr h)

end TemplateRules
