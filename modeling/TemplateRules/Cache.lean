/-!
# Caches

A cache keeps the first value that is stored under a key until it is cleared: storing another value
under a key that is there gives back the one that is kept.
-/

namespace TemplateRules

/-- The values that are kept, by their keys, latest first. -/
structure Cache (α : Type) where
  entries : List (String × α)

namespace Cache

variable {α : Type}

/-- The cache that keeps nothing. -/
def empty : Cache α := ⟨[]⟩

/-- The value that is kept under a key. -/
def get? (c : Cache α) (key : String) : Option α := c.entries.lookup key

/-- Whether a value is kept under a key. -/
def contains (c : Cache α) (key : String) : Bool := (c.get? key).isSome

/-- Stores a value unless one is kept; gives the one that is kept. -/
def put (c : Cache α) (key : String) (value : α) : α × Cache α :=
  match c.get? key with
  | some kept => (kept, c)
  | none => (value, ⟨(key, value) :: c.entries⟩)

/-- The value that is kept, or else the one that is computed, which is then stored. The computation may itself
use the cache, and it may fail. -/
def getOrComputeM {m : Type → Type} [Monad m] [MonadStateOf (Cache α) m] (key : String) (compute : m α) :
    m α := do
  match (← getThe (Cache α)).get? key with
  | some kept => return kept
  | none =>
    let value ← compute
    modifyGetThe (Cache α) (·.put key value)

/-- The value that is kept, or else the one that a function gives, which is then kept. -/
def getOrCompute (c : Cache α) (key : String) (compute : Unit → α) : α × Cache α :=
  (getOrComputeM key fun c => pure (compute (), c) : StateM (Cache α) α) c

/-- The number of values that are kept. -/
def size (c : Cache α) : Nat := c.entries.length

/-- Forgets every value; gives their number. -/
def clear (c : Cache α) : Nat × Cache α := (c.size, empty)

@[simp] theorem get?_empty (key : String) : (empty : Cache α).get? key = none := rfl

theorem get?_put (c : Cache α) (key other : String) (value : α) :
    (c.put key value).2.get? other = if other = key then some (c.put key value).1 else c.get? other := by
  by_cases ho : other = key
  · subst ho
    cases h : c.get? other with
    | none => simp [put, h, get?.eq_def ⟨_⟩]
    | some kept => simp [put, h]
  · cases h : c.get? key with
    | none =>
      rw [put, h]
      simp [get?, List.lookup_cons, ho, beq_false_of_ne ho]
    | some kept => simp [put, h, ho]

end Cache

end TemplateRules
