import Mathlib.Data.List.Induction
import Mathlib.Data.Set.Card
import TemplateRules.Proofs.DocumentIdentity
import TemplateRules.Proofs.Transparency

/-!
# What is kept over a run

Engines keep one result for each key under which an application has returned since the results were forgotten
last, and nothing else: an application without a document, one that fails and one of inputs that have been
applied before leave everything as it is. The invariant is on keys alone, so it does not matter whether digests
collide; an application that shares the key of another one is answered like a repetition of it.

## Main definitions

* `Cache.keys`: the keys under which values are kept
* `Engine.Returned`: applications that have returned since the results were forgotten last
* `Engine.Application.SameInputs`: applications of the same inputs

## Main results

* `Engine.step_keys`: which keys an application adds
* `Engine.keys_keptAfter`: which keys there are after a run
* `Engine.step_of_returned`: what is applied again is answered as before
* `Engine.kept_bookkeeping`: the books of a run
-/

namespace TemplateRules

namespace Cache

variable {α : Type} {c : Cache α} {key : String}

/-- The keys under which values are kept, latest first. -/
def keys (c : Cache α) : List String := c.entries.map (·.1)

theorem length_keys (c : Cache α) : c.keys.length = c.size := List.length_map _

theorem mem_keys_iff : key ∈ c.keys ↔ ∃ value, c.get? key = some value := by
  rw [keys, get?]
  induction c.entries with
  | nil => simp
  | cons e entries ih =>
    rw [List.map_cons, List.mem_cons, ih, List.lookup_cons]
    by_cases h : key = e.1
    · simp [h]
    · simp [h, beq_false_of_ne h]

theorem keys_put (h : c.get? key = none) (value : α) : (c.put key value).2.keys = key :: c.keys := by
  simp only [put, h]
  rfl

end Cache

/-- Maps with the same value under every name have one text, whatever their order is. -/
theorem Digest.mappingText_eq_of_lookup {t u : Table String} (ht : t.names.Nodup) (hu : u.names.Nodup)
    (h : ∀ name, t.lookup name = u.lookup name) : mappingText t = mappingText u := by
  rw [mappingText_eq, mappingText_eq, Table.sorted_eq_of_perm ht (Table.perm_of_lookup ht hu h)]

namespace Engine

/-! ## What has returned -/

/-- In a run that begins with nothing kept, an application has returned a text, and no clearing came after
it. -/
def Returned (calls : List Call) (q : Application) (text : String) : Prop :=
  ∃ before c after, calls = before ++ c :: after ∧ c = .apply q ∧ Call.clear ∉ after ∧
    (step (keptAfter .empty before) c).1 = some (.ok text)

/-- The keys of the applications of a run that have returned since the results were forgotten last. -/
def returnedKeys (calls : List Call) : Set String :=
  {key | ∃ q text, Returned calls q text ∧ q.key? = some key}

variable {calls : List Call} {q r : Application} {kept : Results} {key text : String}

theorem keptAfter_snoc (c : Call) :
    keptAfter kept (calls ++ [c]) = (step (keptAfter kept calls) c).2 := by
  rw [keptAfter, List.foldl_append]
  rfl

theorem not_returned_nil : ¬ Returned [] q text := by
  simp [Returned]

theorem not_returned_clear : ¬ Returned (calls ++ [.clear]) q text := by
  rw [Returned, exists_split_snoc fun before c after => c = .apply q ∧ Call.clear ∉ after ∧
    (step (keptAfter .empty before) c).1 = some (.ok text)]
  rintro (⟨before, c, after, -, -, hclear, -⟩ | ⟨hc, -⟩)
  · simp at hclear
  · simp at hc

theorem returned_apply : Returned (calls ++ [.apply r]) q text ↔ Returned calls q text ∨
    r = q ∧ (step (keptAfter .empty calls) (.apply r)).1 = some (.ok text) := by
  rw [Returned, exists_split_snoc fun before c after => c = .apply q ∧ Call.clear ∉ after ∧
    (step (keptAfter .empty before) c).1 = some (.ok text)]
  simp [Returned]

theorem mem_returnedKeys_apply : key ∈ returnedKeys (calls ++ [.apply r]) ↔ key ∈ returnedKeys calls ∨
    r.key? = some key ∧ ∃ text, (step (keptAfter .empty calls) (.apply r)).1 = some (.ok text) := by
  simp only [returnedKeys, Set.mem_ofPred_eq, returned_apply]
  constructor
  · rintro ⟨q, text, hreturned | ⟨rfl, hanswer⟩, hkey⟩
    · exact .inl ⟨q, text, hreturned, hkey⟩
    · exact .inr ⟨hkey, text, hanswer⟩
  · rintro (⟨q, text, hreturned, hkey⟩ | ⟨hkey, text, hanswer⟩)
    · exact ⟨q, text, .inl hreturned, hkey⟩
    · exact ⟨r, text, .inr ⟨rfl, hanswer⟩, hkey⟩

/-! ## Keys -/

/-- An application adds its key if it returns under a key that was not there, and otherwise changes
nothing. -/
theorem step_keys (kept : Results) (q : Application) :
    (∃ key text, q.key? = some key ∧ (step kept (.apply q)).1 = some (.ok text) ∧ key ∉ kept.keys ∧
      (step kept (.apply q)).2.keys = key :: kept.keys) ∨
    ((∀ key text, q.key? = some key → (step kept (.apply q)).1 = some (.ok text) → key ∈ kept.keys) ∧
      (step kept (.apply q)).2 = kept) := by
  cases hkey : q.key? with
  | none =>
    rw [step_of_no_key hkey]
    exact .inr ⟨by simp, rfl⟩
  | some key =>
    cases hkept : kept.get? key with
    | some kept' =>
      rw [step_of_kept hkey hkept]
      refine .inr ⟨fun other text hother _ => ?_, rfl⟩
      obtain rfl := Option.some.inj hother
      exact Cache.mem_keys_iff.mpr ⟨kept', hkept⟩
    | none =>
      rw [step_of_not_kept hkey hkept]
      cases hfresh : q.fresh with
      | error failure => exact .inr ⟨by simp, rfl⟩
      | ok text =>
        have hnew : key ∉ kept.keys := by simp [Cache.mem_keys_iff, hkept]
        exact .inl ⟨key, text, rfl, rfl, hnew, Cache.keys_put hkept text⟩

/-- After a run there are the keys, each once, of what has returned since the results were forgotten last. -/
theorem keys_keptAfter (calls : List Call) : (keptAfter .empty calls).keys.Nodup ∧
    ∀ key, key ∈ (keptAfter .empty calls).keys ↔ key ∈ returnedKeys calls := by
  induction calls using List.reverseRecOn with
  | nil => exact ⟨.nil, fun key => by simp [keptAfter, Cache.keys, Cache.empty, returnedKeys, not_returned_nil]⟩
  | append_singleton calls c ih =>
    obtain ⟨hnodup, hmem⟩ := ih
    rw [keptAfter_snoc]
    cases c with
    | clear =>
      have hempty : (step (keptAfter .empty calls) .clear).2.keys = [] := rfl
      rw [hempty]
      exact ⟨.nil, fun key => by simp [returnedKeys, not_returned_clear]⟩
    | apply r =>
      simp only [mem_returnedKeys_apply, ← hmem]
      rcases step_keys (keptAfter .empty calls) r with ⟨key, text, hkey, hanswer, hnew, heq⟩ | ⟨hold, heq⟩
      · rw [heq]
        refine ⟨List.nodup_cons.mpr ⟨hnew, hnodup⟩, fun other => ?_⟩
        simp [hkey, hanswer, or_comm, eq_comm]
      · rw [heq]
        refine ⟨hnodup, fun other => ⟨.inl, ?_⟩⟩
        rintro (hother | ⟨hkey, text, hanswer⟩)
        · exact hother
        · exact hold other text hkey hanswer

/-- As many results are kept as keys have been returned under. -/
theorem size_keptAfter (calls : List Call) :
    (keptAfter .empty calls).size = (returnedKeys calls).ncard := by
  obtain ⟨hnodup, hmem⟩ := keys_keptAfter calls
  have hset : returnedKeys calls = ((keptAfter .empty calls).keys.toFinset : Set String) := by
    ext key
    simp [hmem]
  rw [hset, Set.ncard_coe_finset, List.toFinset_card_of_nodup hnodup, Cache.length_keys]

/-! ## Repetitions -/

namespace Application

/-- The maps of an application hold every name once. -/
structure Proper (q : Application) : Prop where
  partials : ∀ d, q.document = some d → d.partials.names.Nodup
  properties : q.context.properties.names.Nodup
  environment : q.context.environment.names.Nodup

/-- Two applications have the same template, the same document and the same context, whatever the order of
their maps is. -/
structure SameInputs (q r : Application) : Prop where
  template : q.template = r.template
  document : Option.Rel RuleDocument.Agrees q.document r.document
  context : q.context.Agrees r.context

end Application

/-- The same inputs have the same key. Each part of the key depends on its input only as far as inputs have to
be the same. -/
theorem key?_eq_of_sameInputs (hq : q.Proper) (hr : r.Proper) (h : q.SameInputs r) : q.key? = r.key? := by
  rw [Application.key?, Application.key?, Application.parts?, Application.parts?]
  have hdocument := h.document
  cases hqd : q.document with
  | none =>
    rw [hqd] at hdocument
    rw [Value.eq_none_of_rel hdocument]
    rfl
  | some d =>
    rw [hqd] at hdocument
    obtain ⟨e, hre, hagrees⟩ := Value.exists_of_rel_some hdocument
    have htext := RuleDocument.fingerprintText_eq_of_agrees (hq.partials d hqd) (hr.partials e hre) hagrees
    have hproperties := Digest.mappingText_eq_of_lookup hq.properties hr.properties h.context.properties
    have henvironment := Digest.mappingText_eq_of_lookup hq.environment hr.environment h.context.environment
    have hparts : q.context.parts q.template d = r.context.parts r.template e := by
      rw [Context.parts, Context.parts, h.template, htext, h.context.template,
        h.context.generatorVersion, hproperties, henvironment, h.context.detector]
    simp only [hre, Option.map_some, hparts]

/-- What is returned under a key is kept until the results are forgotten. -/
theorem get?_of_returned (h : Returned calls q text) (hkey : q.key? = some key) :
    (keptAfter .empty calls).get? key = some text := by
  obtain ⟨before, _, after, rfl, rfl, hclear, hanswer⟩ := h
  rw [keptAfter, List.foldl_append, List.foldl_cons]
  exact get?_keptAfter hclear (get?_of_answer hkey hanswer)

theorem fresh_of_no_document (h : q.document = none) : q.fresh = .ok q.template := by
  rw [Application.fresh, Application.attempt, h, outcome_apply_none, ok_map]

/-- What is applied again is answered as before, and nothing changes. -/
theorem step_of_returned (h : Returned calls q text) (hq : q.Proper) (hr : r.Proper)
    (hsame : q.SameInputs r) :
    step (keptAfter .empty calls) (.apply r) = (some (.ok text), keptAfter .empty calls) := by
  have hkeys := key?_eq_of_sameInputs hq hr hsame
  cases hkey : q.key? with
  | some key => exact step_of_kept (hkeys ▸ hkey) (get?_of_returned h hkey)
  | none =>
    have hrkey : r.key? = none := hkeys ▸ hkey
    obtain ⟨before, _, after, -, rfl, -, hanswer⟩ := h
    rw [step_of_no_key hkey, fresh_of_no_document (key?_eq_none_iff.mp hkey)] at hanswer
    obtain rfl : q.template = text := by simpa using hanswer
    rw [step_of_no_key hrkey, fresh_of_no_document (key?_eq_none_iff.mp hrkey), hsame.template]

/-- A failure leaves what is kept as it is. -/
theorem step_of_failure {f : Failure} (h : (step kept (.apply q)).1 = some (.error f)) :
    (step kept (.apply q)).2 = kept := by
  rcases step_keys kept q with ⟨key, text, -, hanswer, -⟩ | ⟨-, hkept⟩
  · simp [hanswer] at h
  · exact hkept

/-- **The books of a run.** In every run of applications and clearings that begins with nothing kept, as many
results are kept as there are keys of applications, with a document, that have returned since the results were
forgotten last. An application without a document, or one that fails, leaves what is kept as it is, and so does
one whose inputs have been applied before and have returned since; it returns the same text. -/
theorem kept_bookkeeping (calls : List Call) :
    (keptAfter .empty calls).size = (returnedKeys calls).ncard ∧
      (∀ q, q.document = none → (step (keptAfter .empty calls) (.apply q)).2 = keptAfter .empty calls) ∧
      (∀ q f, (step (keptAfter .empty calls) (.apply q)).1 = some (.error f) →
        (step (keptAfter .empty calls) (.apply q)).2 = keptAfter .empty calls) ∧
      ∀ q r text, Returned calls q text → q.Proper → r.Proper → q.SameInputs r →
        step (keptAfter .empty calls) (.apply r) = (some (.ok text), keptAfter .empty calls) := by
  refine ⟨size_keptAfter calls, fun q hdocument => ?_, fun q f => step_of_failure, ?_⟩
  · rw [step_of_no_key (key?_eq_none_iff.mpr hdocument)]
  · exact fun q r text => step_of_returned

/-- The document of two properties is applied, and then again with the properties in another order. -/
theorem step_reordered :
    Returned [.apply (underProperties twoProperties)] (underProperties twoProperties) "b" ∧
      (underProperties twoProperties).Proper ∧ (underProperties twoProperties.reverse).Proper ∧
      (underProperties twoProperties).SameInputs (underProperties twoProperties.reverse) ∧
      step (keptAfter .empty [.apply (underProperties twoProperties)])
          (.apply (underProperties twoProperties.reverse)) =
        (some (.ok "b"), keptAfter .empty [.apply (underProperties twoProperties)]) := by
  have hreturned : Returned [.apply (underProperties twoProperties)] (underProperties twoProperties) "b" :=
    ⟨[], _, [], rfl, rfl, by simp, rfl⟩
  have hproper : ∀ properties : Table String, properties.names.Nodup → (underProperties properties).Proper := by
    intro properties hnames
    refine ⟨?_, hnames, .nil⟩
    rintro d hd
    obtain rfl := Option.some.inj hd
    exact .nil
  have htwo := hproper twoProperties (by decide)
  have hreverse := hproper twoProperties.reverse (by decide)
  have hsame : (underProperties twoProperties).SameInputs (underProperties twoProperties.reverse) := by
    refine ⟨rfl, .some ⟨rfl, rfl, rfl, rfl, rfl, rfl, fun _ => rfl⟩, rfl, rfl, ?_, fun _ => rfl, rfl⟩
    intro name
    simp only [underProperties, twoProperties, List.reverse_cons, List.reverse_nil, List.nil_append,
      List.cons_append, List.lookup_cons]
    by_cases hx : name = "x"
    · subst hx
      decide
    · simp [beq_false_of_ne hx]
  exact ⟨hreturned, htwo, hreverse, hsame,
    (kept_bookkeeping [.apply (underProperties twoProperties)]).2.2.2 _ _ _ hreturned htwo hreverse hsame⟩

end Engine

end TemplateRules
