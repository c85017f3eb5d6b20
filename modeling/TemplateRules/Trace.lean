/-!
# Traces

The work on a template leaves a trace of records, which say what was decided and why. A traced value
is a value together with the records of its computation, in order; the value never depends on them.
-/

namespace TemplateRules

/-- How much a record matters. -/
inductive Level where
  | debug
  | info
  | warning
deriving DecidableEq

/-- The part of the program that a record comes from. -/
inductive Channel where
  | edits
  | locators
  | conditions
  | engine
  | library
  | sources
deriving DecidableEq

/-- The name under which a part of the program keeps its records. -/
def Channel.name : Channel → String
  | .edits => "tailor.matcher"
  | .locators => "tailor.semantic"
  | .conditions => "tailor.conditions"
  | .engine => "tailor.engine"
  | .library => "tailor.library"
  | .sources => "tailor.sources"

/-- One record of a trace. -/
structure Record where
  level : Level
  channel : Channel
  text : String
deriving DecidableEq

/-- A value and the records of its computation. -/
structure Traced (α : Type) where
  value : α
  records : List Record

namespace Traced

variable {α β : Type}

/-- A value without records. -/
protected def pure (a : α) : Traced α := ⟨a, []⟩

/-- The records of the first computation come before those of the second. -/
protected def bind (x : Traced α) (f : α → Traced β) : Traced β :=
  ⟨(f x.value).value, x.records ++ (f x.value).records⟩

instance : Monad Traced where
  pure := Traced.pure
  bind := Traced.bind

/-- Leaves one record. -/
def note (level : Level) (channel : Channel) (text : String) : Traced Unit :=
  ⟨(), [⟨level, channel, text⟩]⟩

@[simp] theorem value_pure (a : α) : (pure a : Traced α).value = a := rfl

@[simp] theorem value_bind (x : Traced α) (f : α → Traced β) :
    (x >>= f).value = (f x.value).value := rfl

@[simp] theorem value_map (f : α → β) (x : Traced α) : (f <$> x).value = f x.value := rfl

@[simp] theorem records_pure (a : α) : (pure a : Traced α).records = [] := rfl

@[simp] theorem records_bind (x : Traced α) (f : α → Traced β) :
    (x >>= f).records = x.records ++ (f x.value).records := rfl

instance : LawfulMonad Traced := LawfulMonad.mk' Traced
  (fun x => by
    cases x
    simp [Functor.map, Traced.bind, Traced.pure])
  (fun _ _ => rfl)
  (fun x f g => by
    cases x
    simp [Bind.bind, Traced.bind])

end Traced

end TemplateRules
