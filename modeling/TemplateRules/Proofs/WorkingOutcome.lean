import TemplateRules.Proofs.Outcome
import TemplateRules.Run.Customization

/-!
# Outcomes of the work of a run

The outcome of work that remembers is its value or its failure together with the memory that it leaves,
without the records. A failure does not undo what was remembered before it.

## Main definitions

* `Working.outcome`: the outcome of work from a memory
* `Recalling.outcome`: the outcome of work that cannot fail

## Main results

* `Working.outcome_bind`, `Working.outcome_tryCatch`: outcomes compose
* `Working.outcome_bind_eq_ok`: when work after work returns
-/

namespace TemplateRules

variable {α β : Type}

/-- The value of work that cannot fail, and the memory that it leaves. -/
def Recalling.outcome (w : Recalling α) (m : Memory) : α × Memory := (w.run m).value

@[simp] theorem Recalling.outcome_pure (a : α) (m : Memory) :
    Recalling.outcome (pure a) m = (a, m) := rfl

@[simp] theorem Recalling.outcome_get (m : Memory) : Recalling.outcome get m = (m, m) := rfl

@[simp] theorem Recalling.outcome_modify (f : Memory → Memory) (m : Memory) :
    Recalling.outcome (modify f) m = ((), f m) := rfl

@[simp] theorem Recalling.outcome_liftM (t : Traced α) (m : Memory) :
    Recalling.outcome (liftM t) m = (t.value, m) := rfl

theorem Recalling.outcome_bind (w : Recalling α) (f : α → Recalling β) (m : Memory) :
    Recalling.outcome (w >>= f) m =
      Recalling.outcome (f (Recalling.outcome w m).1) (Recalling.outcome w m).2 := rfl

namespace Working

/-- The value or the failure of work, and the memory that it leaves. -/
def outcome (w : Working α) (m : Memory) : Except Failure α × Memory := (w.run.run m).value

@[simp] theorem outcome_pure (a : α) (m : Memory) :
    outcome (pure a) m = (.ok a, m) := rfl

@[simp] theorem outcome_throw (f : Failure) (m : Memory) :
    outcome (throw f : Working α) m = (.error f, m) := rfl

@[simp] theorem outcome_get (m : Memory) : outcome (get : Working Memory) m = (.ok m, m) := rfl

@[simp] theorem outcome_modify (f : Memory → Memory) (m : Memory) :
    outcome (modify f : Working PUnit) m = (.ok ⟨⟩, f m) := rfl

@[simp] theorem outcome_attempting (a : Attempt α) (m : Memory) :
    outcome (Run.attempting a) m = (a.outcome, m) := rfl

@[simp] theorem outcome_recalling (w : Recalling α) (m : Memory) :
    outcome (Run.recalling w) m = (.ok (w.outcome m).1, (w.outcome m).2) := rfl

@[simp] theorem outcome_note (level : Level) (text : String) (m : Memory) :
    outcome (Run.note level text) m = (.ok (), m) := rfl

theorem outcome_bind (w : Working α) (f : α → Working β) (m : Memory) :
    outcome (w >>= f) m = match outcome w m with
      | (.ok a, m) => outcome (f a) m
      | (.error e, m) => (.error e, m) := by
  rw [outcome, ExceptT.run_bind, StateT.run_bind, Traced.value_bind, outcome]
  rcases (w.run.run m).value with ⟨_ | _, m'⟩ <;> rfl

/-- Work after work returns exactly if the first returns, and the second on what the first has left. -/
theorem outcome_bind_eq_ok {w : Working α} {f : α → Working β} {m m' : Memory} {b : β} :
    outcome (w >>= f) m = (.ok b, m') ↔
      ∃ a middle, outcome w m = (.ok a, middle) ∧ outcome (f a) middle = (.ok b, m') := by
  rw [outcome_bind]
  rcases outcome w m with ⟨e | a, middle⟩ <;> simp

theorem outcome_tryCatch (w : Working α) (handle : Failure → Working α) (m : Memory) :
    outcome (tryCatch w handle) m = match outcome w m with
      | (.ok a, m) => (.ok a, m)
      | (.error e, m) => outcome (handle e) m := by
  rw [outcome, ExceptT.run_tryCatch, StateT.run_bind, Traced.value_bind, outcome]
  rcases (w.run.run m).value with ⟨_ | _, m'⟩ <;> rfl

end Working

end TemplateRules
