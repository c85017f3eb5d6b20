import Mathlib.Data.List.Nodup
import TemplateRules.Proofs.Agreement
import TemplateRules.Proofs.DigestOnLists
import TemplateRules.Proofs.MapText

/-!
# Transparency of kept results

Engines that share their results answer like engines that keep none, as long as the key of a result tells
what the result depends on. The key tells the template, the document, the snapshot and the version; of the
properties and variables it tells the lines `name=value` in order, which other properties and variables may
have too, and it does not tell the limit on fallbacks. Two applications that differ in one of these only are
confusable, and a run is transparent exactly if no application comes after one that it is confusable with
and that returns something else.

## Main definitions

* `Engine.Call`, `Engine.answers`: runs of applications and clearings, and what they give
* `Engine.Application.fresh`: what an application gives where nothing is kept
* `Engine.Confusable`: applications that share a key without sharing what their results depend on

## Main results

* `Engine.Sound.step`: what is kept was computed since the results were forgotten last
* `Engine.confusable_or_returns`: applications of one key are confusable or return the same
* `Engine.answers_eq_fresh_iff`: the runs in which kept results are transparent
* `Engine.answers_eq_fresh_of_separable`: transparency on maps whose lines can be told apart
-/

namespace TemplateRules.Engine

/-! ## Runs -/

/-- One application: the limit of its engine, and what is applied to what. -/
structure Application where
  limit : Int
  template : String
  document : Option RuleDocument
  context : Context
  given : Option String

/-- A call on engines that share their results. -/
inductive Call where
  | apply (q : Application)
  | clear

/-- What an answer to a call is: the outcome of an application, and nothing of a clearing. -/
abbrev Answer := Option (Except Failure String)

namespace Application

/-- An application with the results that are kept. -/
def attempt (q : Application) (kept : Results) : Attempt (String × Results) :=
  Engine.apply q.limit kept q.template q.document q.context q.given

/-- What an application gives where nothing is kept. -/
def fresh (q : Application) : Except Failure String := (q.attempt .empty).outcome.map (·.1)

/-- The parts of the key of an application; there are none without a document. -/
def parts? (q : Application) : Option (List Digest.Part) :=
  q.document.map (q.context.parts q.template)

/-- The key of the result of an application. -/
def key? (q : Application) : Option String := q.parts?.map Digest.fingerprint

end Application

/-- What a call gives where nothing is kept. -/
def Call.fresh : Call → Answer
  | .apply q => some q.fresh
  | .clear => none

/-- The answer to a call, and the results that are kept after it; a failure leaves them as they are. -/
def step (kept : Results) : Call → Answer × Results
  | .apply q =>
    match (q.attempt kept).outcome with
    | .ok (text, kept) => (some (.ok text), kept)
    | .error failure => (some (.error failure), kept)
  | .clear => (none, (clear kept).value)

/-- The answers to calls. -/
def answers : Results → List Call → List Answer
  | _, [] => []
  | kept, c :: cs => (step kept c).1 :: answers (step kept c).2 cs

/-- The results that are kept after calls. -/
def keptAfter (kept : Results) (calls : List Call) : Results :=
  calls.foldl (fun kept c => (step kept c).2) kept

/-- The parts of the keys of a run. -/
def keyParts (calls : List Call) : List (List Digest.Part) :=
  calls.filterMap fun
    | .apply q => q.parts?
    | .clear => none

/-- Digests do not collide in a run: neither on the texts of parts of one label nor on the streams of
records. -/
structure CollisionFree (calls : List Call) : Prop where
  parts : ∀ label, Set.InjOn Digest.sha256 {s | ∃ ps ∈ keyParts calls, (label, some s) ∈ ps}
  streams : Set.InjOn Digest.sha256 {s | ∃ ps ∈ keyParts calls, s = Digest.partStream ps}

/-- An application among calls with no clearing after it. -/
def AppliedSinceClear (calls : List Call) (q : Application) : Prop :=
  ∃ before between, calls = before ++ .apply q :: between ∧ Call.clear ∉ between

/-- An application that comes after another one, with no clearing between them. -/
def Follows (calls : List Call) (q r : Application) : Prop :=
  ∃ before rest, calls = before ++ .apply r :: rest ∧ AppliedSinceClear before q

/-- Two applications whose results have one key, although their limits differ or their contexts do not
agree. -/
structure Confusable (q r : Application) : Prop where
  document : ∃ d e, q.document = some d ∧ r.document = some e ∧
    d.fingerprintText = e.fingerprintText
  template : q.template = r.template
  snapshot : q.context.template = r.context.template
  generatorVersion : q.context.generatorVersion = r.context.generatorVersion
  properties : Digest.mappingText q.context.properties = Digest.mappingText r.context.properties
  environment : Digest.mappingText q.context.environment = Digest.mappingText r.context.environment
  detector : q.context.detector.name = r.context.detector.name
  differ : q.limit ≠ r.limit ∨ ¬ q.context.Agrees r.context

variable {q r : Application} {kept : Results} {key text : String}

/-! ## Steps -/

theorem fresh_of_document {d : RuleDocument} (h : q.document = some d) : q.fresh =
    (compute q.limit q.template d q.context (q.context.templateName q.given)).outcome := by
  rw [Application.fresh, Application.attempt, h, outcome_apply_some, Cache.get?_empty]
  cases (compute q.limit q.template d q.context (q.context.templateName q.given)).outcome <;> rfl

theorem exists_document_of_key (hkey : q.key? = some key) :
    ∃ d, q.document = some d ∧ q.context.resultKey q.template d = key := by
  obtain ⟨ps, hparts, hkey⟩ := Option.map_eq_some_iff.mp hkey
  obtain ⟨d, hdocument, rfl⟩ := Option.map_eq_some_iff.mp hparts
  exact ⟨d, hdocument, hkey⟩

theorem key?_eq_none_iff : q.key? = none ↔ q.document = none := by
  rw [Application.key?, Application.parts?, Option.map_eq_none_iff, Option.map_eq_none_iff]

theorem step_of_no_key (hkey : q.key? = none) : step kept (.apply q) = (some q.fresh, kept) := by
  simp only [step, Application.fresh, Application.attempt, key?_eq_none_iff.mp hkey, outcome_apply_none,
    ok_map]

/-- A result that is kept is the answer. -/
theorem step_of_kept (hkey : q.key? = some key) (hkept : kept.get? key = some text) :
    step kept (.apply q) = (some (.ok text), kept) := by
  obtain ⟨d, hdocument, rfl⟩ := exists_document_of_key hkey
  simp only [step, Application.attempt, hdocument, outcome_apply_some, hkept]

/-- A result that is not kept is computed, and then kept. -/
theorem step_of_not_kept (hkey : q.key? = some key) (hkept : kept.get? key = none) :
    step kept (.apply q) = (some q.fresh, match q.fresh with
      | .ok text => (kept.put key text).2
      | .error _ => kept) := by
  obtain ⟨d, hdocument, rfl⟩ := exists_document_of_key hkey
  rw [fresh_of_document hdocument]
  simp only [step, Application.attempt, hdocument, outcome_apply_some, hkept]
  cases (compute q.limit q.template d q.context (q.context.templateName q.given)).outcome with
  | error failure => rfl
  | ok text => simp only [ok_map, Cache.put, hkept]

/-- What a result that was returned is kept as. -/
theorem get?_of_answer (hkey : q.key? = some key)
    (hanswer : (step kept (.apply q)).1 = some (.ok text)) :
    (step kept (.apply q)).2.get? key = some text := by
  cases hkept : kept.get? key with
  | some kept' =>
    rw [step_of_kept hkey hkept] at hanswer ⊢
    obtain rfl : kept' = text := by simpa using hanswer
    exact hkept
  | none =>
    rw [step_of_not_kept hkey hkept] at hanswer ⊢
    have hfresh : q.fresh = .ok text := by simpa using hanswer
    rw [hfresh, Cache.get?_put, if_pos rfl]
    simp only [Cache.put, hkept]

/-- No application replaces a result that is kept. -/
theorem get?_step (hkept : kept.get? key = some text) :
    (step kept (.apply q)).2.get? key = some text := by
  cases hkey : q.key? with
  | none => rwa [step_of_no_key hkey]
  | some other =>
    cases hother : kept.get? other with
    | some kept' => rwa [step_of_kept hkey hother]
    | none =>
      rw [step_of_not_kept hkey hother]
      cases q.fresh with
      | error failure => exact hkept
      | ok fresh =>
        have hne : key ≠ other := by
          rintro rfl
          simp [hother] at hkept
        rw [Cache.get?_put, if_neg hne]
        exact hkept

theorem get?_keptAfter {calls : List Call} (hclear : Call.clear ∉ calls)
    (hkept : kept.get? key = some text) : (keptAfter kept calls).get? key = some text := by
  induction calls generalizing kept with
  | nil => exact hkept
  | cons c cs ih =>
    rw [List.mem_cons, not_or] at hclear
    cases c with
    | clear => exact absurd rfl hclear.1
    | apply q => exact ih hclear.2 (get?_step hkept)

/-! ## What is kept -/

theorem AppliedSinceClear.self (calls : List Call) (q : Application) :
    AppliedSinceClear (calls ++ [.apply q]) q := ⟨calls, [], rfl, by simp⟩

theorem AppliedSinceClear.append {calls : List Call} (h : AppliedSinceClear calls q)
    (r : Application) : AppliedSinceClear (calls ++ [.apply r]) q := by
  obtain ⟨before, between, rfl, hclear⟩ := h
  exact ⟨before, between ++ [.apply r], by simp, by simpa using hclear⟩

/-- Every result that is kept was computed by an application since the results were forgotten last. -/
def Sound (calls : List Call) (kept : Results) : Prop :=
  ∀ key text, kept.get? key = some text →
    ∃ q, AppliedSinceClear calls q ∧ q.key? = some key ∧ q.fresh = .ok text

theorem Sound.empty : Sound [] .empty := by
  intro key text hkept
  simp at hkept

/-- What is kept was computed since the results were forgotten last. -/
theorem Sound.step {calls : List Call} (h : Sound calls kept) (c : Call) :
    Sound (calls ++ [c]) (step kept c).2 := by
  cases c with
  | clear =>
    intro key text hkept
    have hempty : (Engine.step kept .clear).2 = .empty := rfl
    rw [hempty] at hkept
    simp at hkept
  | apply r =>
    have hold : Sound (calls ++ [.apply r]) kept := by
      intro key text hkept
      obtain ⟨q, hq, hkey, hfresh⟩ := h key text hkept
      exact ⟨q, hq.append r, hkey, hfresh⟩
    cases hkey : r.key? with
    | none => rwa [step_of_no_key hkey]
    | some other =>
      cases hother : kept.get? other with
      | some kept' => rwa [step_of_kept hkey hother]
      | none =>
        rw [step_of_not_kept hkey hother]
        cases hfresh : r.fresh with
        | error failure => exact hold
        | ok fresh =>
          intro key text hkept
          rw [Cache.get?_put] at hkept
          split at hkept
          next heq =>
            have htext : (kept.put other fresh).1 = fresh := by simp only [Cache.put, hother]
            rw [htext, Option.some.injEq] at hkept
            exact ⟨r, .self calls r, by rw [hkey, heq], by rw [hfresh, hkept]⟩
          next => exact hold key text hkept

/-! ## Keys -/

theorem Confusable.key?_eq (h : Confusable q r) : ∃ key, q.key? = some key ∧ r.key? = some key := by
  obtain ⟨d, e, hq, hr, hdocument⟩ := h.document
  have hparts : q.context.parts q.template d = r.context.parts r.template e := by
    rw [Context.parts, Context.parts, h.template, hdocument, h.snapshot, h.generatorVersion,
      h.properties, h.environment, h.detector]
  refine ⟨q.context.resultKey q.template d, ?_, ?_⟩
  · rw [Application.key?, Application.parts?, hq]
    rfl
  · rw [Application.key?, Application.parts?, hr, Context.resultKey, hparts]
    rfl

theorem mem_keyParts {calls : List Call} {d : RuleDocument} (hmem : Call.apply q ∈ calls)
    (hdocument : q.document = some d) : q.context.parts q.template d ∈ keyParts calls :=
  List.mem_filterMap.mpr ⟨.apply q, hmem, by simp only [Application.parts?, hdocument, Option.map_some]⟩

/-- Where all applications have the same parts, there is nothing for digests to collide on. -/
theorem collisionFree_of_parts_eq {calls : List Call}
    (h : ∀ r, Call.apply r ∈ calls → r.parts? = q.parts?) : CollisionFree calls := by
  have hparts : ∀ ps ∈ keyParts calls, q.parts? = some ps := by
    intro ps hps
    obtain ⟨c, hc, hcparts⟩ := List.mem_filterMap.mp hps
    cases c with
    | clear => simp at hcparts
    | apply r => exact (h r hc).symm.trans hcparts
  constructor
  · rintro label s ⟨ps, hps, hs⟩ t ⟨qs, hqs, ht⟩ -
    obtain rfl : ps = qs := Option.some.inj ((hparts ps hps).symm.trans (hparts qs hqs))
    obtain ⟨d, -, rfl⟩ := Option.map_eq_some_iff.mp (hparts ps hps)
    have hlabels : ((q.context.parts q.template d).map (·.1)).Nodup := by
      simp only [Context.parts, List.map_cons, List.map_nil]
      decide
    simpa using List.inj_on_of_nodup_map hlabels hs ht rfl
  · rintro s ⟨ps, hps, rfl⟩ t ⟨qs, hqs, rfl⟩ -
    obtain rfl : ps = qs := Option.some.inj ((hparts ps hps).symm.trans (hparts qs hqs))
    rfl

/-- Where the texts of the parts have different digests, and so have the streams of the keys, no digests
collide. -/
theorem collisionFree_of_digests {calls : List Call} {keys : List (List Digest.Part)} {texts : List String}
    (hkeys : keyParts calls = keys) (htexts : ∀ ps ∈ keys, ∀ p ∈ ps, ∀ t ∈ p.2, t ∈ texts)
    (hparts : (texts.map fun t => Digest.digestOf (Digest.bytesOf t)).Nodup)
    (hstreams : (keys.map fun ps => Digest.digestOf (Digest.streamBytes ps)).Nodup) :
    CollisionFree calls where
  parts label := (Digest.injOn_sha256 hparts).mono fun s ⟨ps, hps, hs⟩ =>
    htexts ps (hkeys ▸ hps) (label, some s) hs s rfl
  streams := hkeys ▸ Digest.injOn_sha256_partStream hstreams

/-- Applications of one key are confusable, or what one of them returns the other one returns too. One key
means the same digests, and so the same parts in the order of their labels. -/
theorem confusable_or_returns {calls : List Call} (hsha : CollisionFree calls)
    (hq : Call.apply q ∈ calls) (hr : Call.apply r ∈ calls) (hqkey : q.key? = some key)
    (hrkey : r.key? = some key) :
    Confusable q r ∨ ∀ text, q.fresh = .ok text → r.fresh = .ok text := by
  obtain ⟨d, hd, hdkey⟩ := exists_document_of_key hqkey
  obtain ⟨e, he, hekey⟩ := exists_document_of_key hrkey
  have htexts : ∀ ps ∈ keyParts calls, ∀ p ∈ ps, ∀ s ∈ p.2,
      ∃ ps ∈ keyParts calls, (p.1, some s) ∈ ps := by
    rintro ps hps ⟨label, value⟩ hp s rfl
    exact ⟨ps, hps, hp⟩
  have hqparts := mem_keyParts hq hd
  have hrparts := mem_keyParts hr he
  have hparts := Digest.fingerprint_inj hsha.parts hsha.streams (htexts _ hqparts)
    (htexts _ hrparts) ⟨_, hqparts, rfl⟩ ⟨_, hrparts, rfl⟩ rfl (hdkey.trans hekey.symm)
  simp only [Context.parts, List.cons.injEq, Prod.mk.injEq, Option.some.injEq, true_and,
    and_true] at hparts
  obtain ⟨htemplate, hdocument, hsnapshot, hversion, hproperties, henvironment, hdetector⟩ := hparts
  by_cases hsame : q.limit = r.limit ∧ q.context.Agrees r.context
  · right
    intro text hfresh
    have hresult := result?_compute_eq hsame.2 (RuleDocument.agrees_of_fingerprintText_eq hdocument)
      q.limit q.template (q.context.templateName q.given) (r.context.templateName r.given)
    rw [fresh_of_document hd, ← Attempt.result?_eq_some, hresult] at hfresh
    rw [fresh_of_document he, ← Attempt.result?_eq_some, ← hsame.1, ← htemplate]
    exact hfresh
  · left
    refine ⟨⟨d, e, hd, he, hdocument⟩, htemplate, hsnapshot, hversion, hproperties, henvironment,
      hdetector, ?_⟩
    rwa [← Decidable.not_and_iff_not_or_not]

/-! ## Runs with kept results -/

theorem answers_append (kept : Results) (cs ds : List Call) :
    answers kept (cs ++ ds) = answers kept cs ++ answers (keptAfter kept cs) ds := by
  induction cs generalizing kept with
  | nil => rfl
  | cons c cs ih =>
    rw [List.cons_append, answers, ih, answers, List.cons_append]
    rfl

theorem length_answers (kept : Results) (calls : List Call) :
    (answers kept calls).length = calls.length := by
  induction calls generalizing kept with
  | nil => rfl
  | cons c cs ih => rw [answers, List.length_cons, List.length_cons, ih]

theorem step_of_answers_eq {before rest : List Call} {c : Call}
    (h : answers kept (before ++ c :: rest) = (before ++ c :: rest).map Call.fresh) :
    (step (keptAfter kept before) c).1 = c.fresh := by
  rw [answers_append, answers, List.map_append, List.map_cons] at h
  obtain ⟨-, htail⟩ := List.append_inj h (by rw [length_answers, List.length_map])
  exact (List.cons.inj htail).1

theorem AppliedSinceClear.mem {calls : List Call} (h : AppliedSinceClear calls q) :
    Call.apply q ∈ calls := by
  obtain ⟨before, between, rfl, -⟩ := h
  simp

/-- A run that answers like fresh engines returns the same for applications that are confusable. -/
theorem returns_of_answers_eq {calls : List Call}
    (h : answers .empty calls = calls.map Call.fresh) (hfollows : Follows calls q r)
    (hconfusable : Confusable q r) (hfresh : q.fresh = .ok text) : r.fresh = .ok text := by
  obtain ⟨before, rest, rfl, start, between, rfl, hclear⟩ := hfollows
  obtain ⟨key, hqkey, hrkey⟩ := hconfusable.key?_eq
  have hq : (step (keptAfter .empty start) (.apply q)).1 = some q.fresh := by
    have hsplit : answers .empty (start ++ .apply q :: (between ++ .apply r :: rest)) =
        (start ++ .apply q :: (between ++ .apply r :: rest)).map Call.fresh := by simpa using h
    exact step_of_answers_eq hsplit
  have hr := step_of_answers_eq h
  have hkept : (keptAfter .empty (start ++ .apply q :: between)).get? key = some text := by
    rw [keptAfter, List.foldl_append, List.foldl_cons]
    exact get?_keptAfter hclear (get?_of_answer hqkey (hq.trans (congrArg some hfresh)))
  rw [step_of_kept hrkey hkept, Call.fresh, Option.some.injEq] at hr
  exact hr.symm

/-- A run answers like fresh engines if no application follows one that it is confusable with and that returns
something else. The calls made so far are kept apart from those to come, since a kept result is traced to
them. -/
theorem answers_eq_of_returns {calls : List Call} (hsha : CollisionFree calls)
    (hreturns : ∀ q r, Follows calls q r → Confusable q r →
      ∀ text, q.fresh = .ok text → r.fresh = .ok text) :
    answers .empty calls = calls.map Call.fresh := by
  have hrest : ∀ (rest before : List Call) (kept : Results), calls = before ++ rest →
      Sound before kept → answers kept rest = rest.map Call.fresh := by
    intro rest
    induction rest with
    | nil => exact fun _ _ _ _ => rfl
    | cons c rest ih =>
      intro before kept hcalls hsound
      have hanswer : (step kept c).1 = c.fresh := by
        cases c with
        | clear => rfl
        | apply r =>
          cases hkey : r.key? with
          | none => rw [step_of_no_key hkey, Call.fresh]
          | some key =>
            cases hkept : kept.get? key with
            | none => rw [step_of_not_kept hkey hkept, Call.fresh]
            | some text =>
              obtain ⟨q, hq, hqkey, hqfresh⟩ := hsound key text hkept
              have hqmem : Call.apply q ∈ calls := hcalls ▸ List.mem_append_left _ hq.mem
              have hrmem : Call.apply r ∈ calls := hcalls ▸ by simp
              rw [step_of_kept hkey hkept, Call.fresh]
              rcases confusable_or_returns hsha hqmem hrmem hqkey hkey with hconfusable | hsame
              · rw [hreturns q r ⟨before, rest, hcalls, hq⟩ hconfusable text hqfresh]
              · rw [hsame text hqfresh]
      rw [answers, List.map_cons, hanswer,
        ih (before ++ [c]) (step kept c).2 (by rw [hcalls]; simp) (hsound.step c)]
  exact hrest calls [] .empty rfl Sound.empty

/-- **Kept results are transparent exactly where confusable applications return the same.** Where digests
do not collide in a run, every call is answered like a call on an engine that keeps nothing, if and only if
no application follows one that it is confusable with and that returns a text, without returning that
text too. -/
theorem answers_eq_fresh_iff (calls : List Call) (hsha : CollisionFree calls) :
    answers .empty calls = calls.map Call.fresh ↔
      ∀ q r, Follows calls q r → Confusable q r → ∀ text, q.fresh = .ok text → r.fresh = .ok text := by
  constructor
  · intro h q r hfollows hconfusable text hfresh
    exact returns_of_answers_eq h hfollows hconfusable hfresh
  · exact answers_eq_of_returns hsha

/-- No application is confusable with another one on engines of one limit, in contexts that detect
features by their markers and whose maps have lines that can be told apart. -/
theorem not_confusable_of_separable (hlimit : q.limit = r.limit)
    (hdetectors : q.context.detector = r.context.detector)
    (hproperties : Digest.Separable q.context.properties ∧ Digest.Separable r.context.properties)
    (henvironment : Digest.Separable q.context.environment ∧
      Digest.Separable r.context.environment) : ¬ Confusable q r := by
  intro h
  have hagrees : q.context.Agrees r.context :=
    ⟨h.generatorVersion, h.snapshot,
      Digest.lookup_eq_of_mappingText_eq hproperties.1 hproperties.2 h.properties,
      Digest.lookup_eq_of_mappingText_eq henvironment.1 henvironment.2 h.environment, hdetectors⟩
  exact h.differ.elim (fun hne => hne hlimit) (fun hne => hne hagrees)

/-- Engines of one limit are transparent in contexts that detect features by their markers and whose maps
have lines that can be told apart. -/
theorem answers_eq_fresh_of_separable {calls : List Call} {limit : Int} (hsha : CollisionFree calls)
    (hlimit : ∀ q, Call.apply q ∈ calls → q.limit = limit)
    (hdetector : ∀ q, Call.apply q ∈ calls → q.context.detector = .markers)
    (hproperties : ∀ q, Call.apply q ∈ calls → Digest.Separable q.context.properties)
    (henvironment : ∀ q, Call.apply q ∈ calls → Digest.Separable q.context.environment) :
    answers .empty calls = calls.map Call.fresh := by
  refine answers_eq_of_returns hsha fun q r hfollows hconfusable => ?_
  obtain ⟨before, rest, rfl, hq⟩ := hfollows
  have hqmem : Call.apply q ∈ before ++ .apply r :: rest := List.mem_append_left _ hq.mem
  have hrmem : Call.apply r ∈ before ++ .apply r :: rest := by simp
  refine absurd hconfusable (not_confusable_of_separable ?_ ?_ ?_ ?_)
  · rw [hlimit q hqmem, hlimit r hrmem]
  · rw [hdetector q hqmem, hdetector r hrmem]
  · exact ⟨hproperties q hqmem, hproperties r hrmem⟩
  · exact ⟨henvironment q hqmem, henvironment r hrmem⟩

/-! ## Two maps with the same lines -/

/-- That the property `y` is one. -/
def yIsOne : ConditionSet :=
  .mk ⟨none, none, none, none, none, none, none, none, some "y=1", none, none⟩ none none none

/-- A document that replaces a letter where the property `y` is one, applied under properties. -/
def underProperties (properties : Table String) : Application where
  limit := 5
  template := "a"
  document := some ⟨none, none, [], [⟨⟨"a", "b", .literal, some yIsOne⟩, []⟩], [], [], []⟩
  context := ⟨none, none, properties, [], .markers⟩
  given := none

/-- A property whose value has two lines. -/
def oneProperty : Table String := [("x", "0\ny=1")]

/-- Two properties with the same two lines. -/
def twoProperties : Table String := [("x", "0"), ("y", "1")]

/-- The document applied under the one property, and then under the two. -/
def sameLines : List Call :=
  [.apply (underProperties oneProperty), .apply (underProperties twoProperties)]

theorem mappingText_sameLines : Digest.mappingText oneProperty = Digest.mappingText twoProperties := by
  have hone : Digest.mappingText oneProperty = "x=0\ny=1" := by decide +kernel
  have hsorted : twoProperties.mergeSort (fun a b => a.1 ≤ b.1) = twoProperties :=
    List.mergeSort_of_pairwise (by decide)
  have htwo : Digest.mappingText twoProperties = "x=0\ny=1" := by
    rw [Digest.mappingText, hsorted]
    decide +kernel
  rw [hone, htwo]

theorem fresh_oneProperty : (underProperties oneProperty).fresh = .ok "a" := rfl

theorem fresh_twoProperties : (underProperties twoProperties).fresh = .ok "b" := rfl

/-- Both applications digest the same texts. -/
theorem collisionFree_sameLines : CollisionFree sameLines := by
  have htwo : (underProperties oneProperty).parts? = (underProperties twoProperties).parts? := by
    rw [Application.parts?, Application.parts?]
    simp only [underProperties, Option.map_some, Context.parts, mappingText_sameLines]
  refine collisionFree_of_parts_eq (q := underProperties oneProperty) fun q hq => ?_
  rcases List.mem_cons.mp hq with heq | hlast
  · obtain rfl := Call.apply.inj heq
    rfl
  · obtain rfl := Call.apply.inj (List.mem_singleton.mp hlast)
    exact htwo.symm

theorem answers_sameLines_iff : CollisionFree sameLines ∧
    (answers .empty sameLines = sameLines.map Call.fresh ↔
      ∀ q r, Follows sameLines q r → Confusable q r →
        ∀ text, q.fresh = .ok text → r.fresh = .ok text) :=
  ⟨collisionFree_sameLines, answers_eq_fresh_iff sameLines collisionFree_sameLines⟩

/-- The second application is answered with the text of the first one. -/
theorem answers_sameLines_ne_fresh : CollisionFree sameLines ∧
    answers .empty sameLines ≠ sameLines.map Call.fresh := by
  refine ⟨collisionFree_sameLines, fun h => ?_⟩
  have hfollows : Follows sameLines (underProperties oneProperty) (underProperties twoProperties) :=
    ⟨[.apply (underProperties oneProperty)], [], rfl, [], [], rfl, by simp⟩
  have hdiffer :
      ¬ (underProperties oneProperty).context.Agrees (underProperties twoProperties).context := by
    intro hagrees
    exact absurd (hagrees.properties "y") (by decide)
  have hconfusable : Confusable (underProperties oneProperty) (underProperties twoProperties) :=
    ⟨⟨_, _, rfl, rfl, rfl⟩, rfl, rfl, rfl, mappingText_sameLines, rfl, rfl, .inr hdiffer⟩
  have hreturned := returns_of_answers_eq h hfollows hconfusable fresh_oneProperty
  rw [fresh_twoProperties] at hreturned
  simp at hreturned

end TemplateRules.Engine
