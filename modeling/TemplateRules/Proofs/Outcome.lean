import Mathlib.Data.List.Basic
import TemplateRules.Failure

/-!
# Outcomes of attempts

The outcome of an attempt is its value or its failure, without the records that it leaves. Outcomes
compose as the attempts do, so that facts about what an attempt returns need not speak of its records.

## Main definitions

* `Attempt.outcome`: the outcome of an attempt

## Main results

* `bind_eq_ok`, `bind_eq_error`: what a sequence of two steps comes to
* `Attempt.outcome_bind`, `Attempt.outcome_tryCatch`: outcomes compose
-/

namespace TemplateRules

section Steps

variable {ε α β : Type}

@[simp] theorem ok_bind (a : α) (f : α → Except ε β) : (Except.ok a >>= f) = f a := rfl

@[simp] theorem error_bind (e : ε) (f : α → Except ε β) : (Except.error e >>= f) = .error e := rfl

@[simp] theorem pure_eq_ok (a : α) : (pure a : Except ε α) = .ok a := rfl

@[simp] theorem ok_map (a : α) (f : α → β) : (Except.ok a : Except ε α).map f = .ok (f a) := rfl

@[simp] theorem error_map (e : ε) (f : α → β) : (Except.error e).map f = .error e := rfl

theorem bind_eq_ok {x : Except ε α} {f : α → Except ε β} {b : β} :
    (x >>= f) = .ok b ↔ ∃ a, x = .ok a ∧ f a = .ok b := by
  cases x <;> simp

theorem bind_eq_error {x : Except ε α} {f : α → Except ε β} {e : ε} :
    (x >>= f) = .error e ↔ x = .error e ∨ ∃ a, x = .ok a ∧ f a = .error e := by
  cases x <;> simp

/-- The failure of a step that fails. -/
def failure? : Except ε α → Option ε
  | .ok _ => none
  | .error e => some e

theorem failure?_eq_some {x : Except ε α} {e : ε} : failure? x = some e ↔ x = .error e := by
  cases x <;> simp [failure?]

theorem toOption_eq_some {x : Except ε α} {a : α} : x.toOption = some a ↔ x = .ok a := by
  cases x <;> simp [Except.toOption]

theorem map_eq_ok {x : Except ε α} {f : α → β} {b : β} :
    x.map f = .ok b ↔ ∃ a, x = .ok a ∧ f a = b := by
  cases x <;> simp [Except.map]

theorem map_eq_error {x : Except ε α} {f : α → β} {e : ε} : x.map f = .error e ↔ x = .error e := by
  cases x <;> simp [Except.map]

/-- Steps over a list that succeed give the result of each of them. -/
theorem exists_of_mapM_eq_ok {f : α → Except ε β} {as : List α} {bs : List β} {a : α}
    (h : as.mapM f = .ok bs) (ha : a ∈ as) : ∃ b ∈ bs, f a = .ok b := by
  induction as generalizing bs with
  | nil => simp at ha
  | cons a' as ih =>
    rw [List.mapM_cons] at h
    obtain ⟨b, hb, h⟩ := bind_eq_ok.mp h
    obtain ⟨rest, hrest, h⟩ := bind_eq_ok.mp h
    obtain rfl : b :: rest = bs := by simpa using h
    rcases List.mem_cons.mp ha with rfl | ha
    · exact ⟨b, List.mem_cons_self, hb⟩
    · obtain ⟨b', hmem, hb'⟩ := ih hrest ha
      exact ⟨b', List.mem_cons_of_mem _ hmem, hb'⟩

/-- Steps over a list that succeed give no results but those of its items. -/
theorem exists_of_mem_of_mapM_eq_ok {f : α → Except ε β} {as : List α} {bs : List β} {b : β}
    (h : as.mapM f = .ok bs) (hb : b ∈ bs) : ∃ a ∈ as, f a = .ok b := by
  induction as generalizing bs with
  | nil =>
    obtain rfl : [] = bs := by simpa using h
    simp at hb
  | cons a as ih =>
    rw [List.mapM_cons] at h
    obtain ⟨b', hb', h⟩ := bind_eq_ok.mp h
    obtain ⟨rest, hrest, h⟩ := bind_eq_ok.mp h
    obtain rfl : b' :: rest = bs := by simpa using h
    rcases List.mem_cons.mp hb with rfl | hb
    · exact ⟨a, List.mem_cons_self, hb'⟩
    · obtain ⟨a', hmem, ha'⟩ := ih hrest hb
      exact ⟨a', List.mem_cons_of_mem _ hmem, ha'⟩

/-- Steps over a list fail with the failure of the first that does. -/
theorem mapM_eq_error {f : α → Except ε β} {as : List α} {e : ε} :
    as.mapM f = .error e ↔
      ∃ before a after, as = before ++ a :: after ∧ (∀ b ∈ before, ∃ r, f b = .ok r) ∧
        f a = .error e := by
  induction as with
  | nil => simp
  | cons a as ih =>
    rw [List.mapM_cons, bind_eq_error]
    constructor
    · rintro (h | ⟨b, hb, h⟩)
      · exact ⟨[], a, as, rfl, by simp, h⟩
      · rcases bind_eq_error.mp h with h | ⟨rest, -, h⟩
        · obtain ⟨before, c, after, rfl, hok, hc⟩ := ih.mp h
          exact ⟨a :: before, c, after, rfl, by simpa using ⟨⟨b, hb⟩, hok⟩, hc⟩
        · simp at h
    · rintro ⟨_ | ⟨a', before⟩, c, after, hsplit, hok, hc⟩
      · obtain ⟨rfl, rfl⟩ : a = c ∧ as = after := by simpa using hsplit
        exact .inl hc
      · obtain ⟨rfl, rfl⟩ : a = a' ∧ as = before ++ c :: after := by simpa using hsplit
        obtain ⟨⟨b, hb⟩, hok⟩ : (∃ r, f a = .ok r) ∧ ∀ b ∈ before, ∃ r, f b = .ok r := by
          simpa using hok
        exact .inr ⟨b, hb, bind_eq_error.mpr (.inl (ih.mpr ⟨before, c, after, rfl, hok, hc⟩))⟩

/-- Steps over a list fail if one of them does. -/
theorem exists_mapM_eq_error {f : α → Except ε β} {as : List α} :
    (∃ e, as.mapM f = .error e) ↔ ∃ a ∈ as, ∃ e, f a = .error e := by
  induction as with
  | nil => simp
  | cons a as ih =>
    rw [List.exists_mem_cons_iff, ← ih, List.mapM_cons]
    cases f a with
    | error e => simp
    | ok b => cases as.mapM f <;> simp

theorem forM_eq_ok {f : α → Except ε Unit} {as : List α} :
    as.forM f = .ok () ↔ ∀ a ∈ as, f a = .ok () := by
  induction as with
  | nil => simp [List.forM]
  | cons a as ih =>
    rw [List.forall_mem_cons, ← ih, List.forM]
    cases f a <;> simp

end Steps

/-- What holds at some place of a list holds at the last one or at one before it. -/
theorem exists_split_snoc {α : Type} {as : List α} {a : α} (P : List α → α → List α → Prop) :
    (∃ before b after, as ++ [a] = before ++ b :: after ∧ P before b after) ↔
      (∃ before b after, as = before ++ b :: after ∧ P before b (after ++ [a])) ∨ P as a [] := by
  constructor
  · rintro ⟨before, b, after, heq, h⟩
    rcases List.eq_nil_or_concat after with rfl | ⟨after, last, rfl⟩
    · obtain ⟨rfl, rfl⟩ : as = before ∧ a = b := by simpa using heq
      exact .inr h
    · rw [List.concat_eq_append] at heq h
      rw [← List.cons_append, ← List.append_assoc] at heq
      obtain ⟨rfl, hlast⟩ := List.append_inj' heq rfl
      obtain rfl : a = last := by simpa using hlast
      exact .inl ⟨before, b, after, rfl, h⟩
  · rintro (⟨before, b, after, rfl, h⟩ | h)
    · exact ⟨before, b, after ++ [a], by simp, h⟩
    · exact ⟨as, a, [], rfl, h⟩

namespace Attempt

variable {α β : Type}

/-- The value or the failure of an attempt. -/
def outcome (a : Attempt α) : Except Failure α := a.run.value

@[simp] theorem outcome_pure (a : α) : (pure a : Attempt α).outcome = .ok a := rfl

@[simp] theorem outcome_throw (f : Failure) : (throw f : Attempt α).outcome = .error f := rfl

@[simp] theorem outcome_lift (t : Traced α) :
    outcome (ExceptT.lift t) = .ok t.value := rfl

@[simp] theorem outcome_liftM (e : Except Failure α) : (liftM e : Attempt α).outcome = e := by
  cases e <;> rfl

@[simp] theorem outcome_note (level : Level) (channel : Channel) (text : String) :
    (note level channel text).outcome = .ok () := rfl

theorem outcome_bind (a : Attempt α) (f : α → Attempt β) :
    (a >>= f).outcome = a.outcome >>= fun x => (f x).outcome := by
  rw [outcome, ExceptT.run_bind, Traced.value_bind, outcome]
  cases a.run.value <;> rfl

@[simp] theorem outcome_map (f : α → β) (a : Attempt α) : (f <$> a).outcome = a.outcome.map f := by
  rw [outcome, ExceptT.run_map, Traced.value_map]
  rfl

theorem outcome_tryCatch (a : Attempt α) (handle : Failure → Attempt α) :
    (tryCatch a handle).outcome = match a.outcome with
      | .ok x => .ok x
      | .error e => (handle e).outcome := by
  rw [outcome, ExceptT.run_tryCatch, Traced.value_bind, outcome]
  cases a.run.value <;> rfl

end Attempt

end TemplateRules
