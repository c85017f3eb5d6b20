/-!
# Tables

A table holds values under names and keeps the order in which the names came. Putting a value under a
name that is there replaces the value in its place.
-/

namespace TemplateRules

/-- Values under names, in the order of the names. -/
abbrev Table (α : Type) := List (String × α)

namespace Table

variable {α : Type}

/-- The table with a value put under a name. -/
def put (name : String) (value : α) : Table α → Table α
  | [] => [(name, value)]
  | (n, v) :: rest => if n = name then (n, value) :: rest else (n, v) :: put name value rest

/-- The table with the entries of another one put into it. -/
def putAll (t : Table α) (entries : List (String × α)) : Table α :=
  entries.foldl (fun t e => t.put e.1 e.2) t

/-- The table of entries, of which a later one replaces an earlier one of the same name. -/
def ofEntries (entries : List (String × α)) : Table α := putAll [] entries

/-- The names of a table. -/
def names (t : Table α) : List String := t.map (·.1)

theorem lookup_put (t : Table α) (name other : String) (value : α) :
    (t.put name value).lookup other = if other = name then some value else t.lookup other := by
  induction t with
  | nil =>
    by_cases h : other = name
    · simp [put, h]
    · simp [put, List.lookup_cons, h, beq_false_of_ne h]
  | cons e t ih =>
    obtain ⟨n, v⟩ := e
    by_cases hn : n = name
    · subst hn
      by_cases h : other = n
      · simp [put, h]
      · simp [put, List.lookup_cons, h, beq_false_of_ne h]
    · by_cases ho : other = n
      · subst ho
        simp [put, hn]
      · simp [put, List.lookup_cons, hn, ih, beq_false_of_ne ho]

end Table

end TemplateRules
