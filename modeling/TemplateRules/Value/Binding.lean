import TemplateRules.Table
import TemplateRules.Value.Tree

/-!
# Binding values to types

Reading a value into a type looks at every field and reports all that does not fit, by the way from
the root to it: the fields in their order first, then the keys that no field knows. A field may be
given under its key or under its name; if both are there the key counts.

## Main definitions

* `FieldProblem`: what does not fit, and where
* `Bound`: the outcome of binding, with `Bound.ap` to bind the fields of a structure side by side
* `FieldKey.field?`: the value that is given for a field
-/

namespace TemplateRules

/-! ## Problems -/

/-- A step on the way from the root of a value to a part: a key or a position. -/
inductive PathStep where
  | key (key : Scalar)
  | index (position : Nat)
deriving DecidableEq

/-- The text of a step. -/
def PathStep.text : PathStep → String
  | .key k => k.plain
  | .index i => toString i

/-- Why a value does not fit the type of a field. -/
inductive FieldFault where
  | missing
  | unexpected
  | notText
  | undecodable
  | notTuple
  | notMap
  | notModel (name : String)
  | notRuleKind
  | notInteger
  | unreadableInteger
  | oversizedInteger
  | fractional
  | notFinite
  | below (least : Nat)
  | notTruthValue
  | unreadableTruthValue
  | badKey
  | notPath
deriving DecidableEq

/-- The word for a fault. -/
def FieldFault.label : FieldFault → String
  | .missing => "missing"
  | .unexpected => "extra_forbidden"
  | .notText => "string_type"
  | .undecodable => "string_unicode"
  | .notTuple => "tuple_type"
  | .notMap => "dict_type"
  | .notModel _ => "model_type"
  | .notRuleKind => "enum"
  | .notInteger => "int_type"
  | .unreadableInteger => "int_parsing"
  | .oversizedInteger => "int_parsing_size"
  | .fractional => "int_from_float"
  | .notFinite => "finite_number"
  | .below _ => "greater_than_equal"
  | .notTruthValue => "bool_type"
  | .unreadableTruthValue => "bool_parsing"
  | .badKey => "invalid_key"
  | .notPath => "path_type"

/-- The wording of a fault. -/
def FieldFault.message : FieldFault → String
  | .missing => "Field required"
  | .unexpected => "Extra inputs are not permitted"
  | .notText => "Input should be a valid string"
  | .undecodable =>
    "Input should be a valid string, unable to parse raw data as a unicode string"
  | .notTuple => "Input should be a valid tuple"
  | .notMap => "Input should be a valid dictionary"
  | .notModel name => "Input should be a valid dictionary or instance of " ++ name
  | .notRuleKind => "Input should be 'string' or 'regex'"
  | .notInteger => "Input should be a valid integer"
  | .unreadableInteger => "Input should be a valid integer, unable to parse string as an integer"
  | .oversizedInteger => "Unable to parse input string as an integer, exceeded maximum size"
  | .fractional => "Input should be a valid integer, got a number with a fractional part"
  | .notFinite => "Input should be a finite number"
  | .below least => s!"Input should be greater than or equal to {least}"
  | .notTruthValue => "Input should be a valid boolean"
  | .unreadableTruthValue => "Input should be a valid boolean, unable to interpret input"
  | .badKey => "Keys should be strings"
  | .notPath => "Input is not a valid path for <class 'pathlib.Path'>"

/-- A value that does not fit, by the way to it. -/
structure FieldProblem where
  path : List PathStep
  fault : FieldFault
deriving DecidableEq

/-! ## Outcomes -/

/-- The outcome of binding: the result, or all that does not fit. -/
abbrev Bound (α : Type) := Except (List FieldProblem) α

namespace Bound

variable {α β : Type}

/-- A result. -/
def value (a : α) : Bound α := .ok a

/-- A single problem at the value itself. -/
def misfit (fault : FieldFault) : Bound α := .error [⟨[], fault⟩]

/-- Applies a bound function to a bound argument; the problems of both are kept, in order. -/
def ap (f : Bound (α → β)) (a : Bound α) : Bound β :=
  match f, a with
  | .ok f, .ok a => .ok (f a)
  | .error ps, .ok _ => .error ps
  | .ok _, .error qs => .error qs
  | .error ps, .error qs => .error (ps ++ qs)

/-- The result, if there are no further problems. -/
def refuse (a : Bound α) (problems : List FieldProblem) : Bound α :=
  match a with
  | .ok a => if problems.isEmpty then .ok a else .error problems
  | .error ps => .error (ps ++ problems)

/-- The outcome for a part, seen from the whole. -/
def within (step : PathStep) (a : Bound α) : Bound α :=
  a.mapError fun ps => ps.map fun p => { p with path := step :: p.path }

/-- Binds every item of a list. -/
def items (bind : α → Bound β) (position : Nat) : List α → Bound (List β)
  | [] => .ok []
  | a :: as =>
    (value List.cons).ap (within (.index position) (bind a)) |>.ap (items bind (position + 1) as)

@[simp] theorem ap_ok (f : α → β) (a : α) : ap (.ok f) (.ok a) = .ok (f a) := rfl

theorem ap_eq_ok {f : Bound (α → β)} {a : Bound α} {b : β} :
    ap f a = .ok b ↔ ∃ g x, f = .ok g ∧ a = .ok x ∧ g x = b := by
  cases f <;> cases a <;> simp [ap]

end Bound

/-! ## Fields -/

/-- The key of a field and its name, under which it may be given too. -/
structure FieldKey where
  key : String
  name : String

namespace FieldKey

/-- A field that has one key only. -/
def plain (name : String) : FieldKey := ⟨name, name⟩

/-- The value that is given for a field, with the key it is given under. -/
def field? {ρ : Type} (f : FieldKey) (entries : List (Scalar × ρ)) : Option (String × ρ) :=
  match lookupKey f.key entries with
  | some v => some (f.key, v)
  -- The name is looked at only where the key is absent.
  | none => (lookupKey f.name entries).map fun v => (f.name, v)

/-- Binds a field that may be absent. -/
def optional {ρ α : Type} (f : FieldKey) (entries : List (Scalar × ρ)) (default : α)
    (bind : ρ → Bound α) : Bound α :=
  match f.field? entries with
  | none => .ok default
  | some (given, v) => (bind v).within (.key (.text given))

/-- Binds a field that must be there. -/
def required {ρ α : Type} (f : FieldKey) (entries : List (Scalar × ρ)) (bind : ρ → Bound α) :
    Bound α :=
  match f.field? entries with
  | none => (Bound.misfit .missing).within (.key (.text f.key))
  | some (given, v) => (bind v).within (.key (.text given))

/-- The keys that no field has used. A key that is no text is a fault of its own. -/
def unused {ρ : Type} (fields : List FieldKey) (entries : List (Scalar × ρ)) : List FieldProblem :=
  let used := fields.filterMap fun f => (f.field? entries).map (·.1)
  entries.filterMap fun (k, _) =>
    match k with
    | .text s => if used.contains s then none else some ⟨[.key k], .unexpected⟩
    | _ => some ⟨[.key k], .badKey⟩

end FieldKey

/-! ## Plain types -/

namespace Value

/-- The entries of a map that is to be read as a structure. -/
def entriesOf (model : String) : Value → Bound (List (Scalar × Value))
  | .map entries => .ok entries
  | _ => .misfit (.notModel model)

/-- Reads a text. Bytes are read as a text if they encode one. -/
def asText : Value → Bound String
  | .scalar (.text s) => .ok s
  | .scalar (.bytes bs) =>
    match String.fromUTF8? ⟨bs.toArray⟩ with
    | some s => .ok s
    | none => .misfit .undecodable
  | _ => .misfit .notText

/-- Reads a value that may be null. -/
def orNull {α : Type} (bind : Value → Bound α) : Value → Bound (Option α)
  | .scalar .null => .ok none
  | v => (bind v).map some

/-- The items of a value that is to be read as a sequence. -/
def itemsOf : Value → Bound (List Value)
  | .list items => .ok items
  | .pair a b => .ok [a, b]
  | .members keys => .ok (keys.map Value.scalar)
  | _ => .misfit .notTuple

/-- Reads a sequence of texts. -/
def asTexts (v : Value) : Bound (List String) := do Bound.items asText 0 (← v.itemsOf)

/-- Reads the entries of a map with texts as keys. -/
def entriesBy {α : Type} (bind : Value → Bound α) : List (Scalar × Value) → Bound (List (String × α))
  | [] => .ok []
  | (k, v) :: rest =>
    -- The problem of a key is told from that of the value under it by a step of its own.
    let key := (asText (.scalar k)).within (.key (.text "[key]")) |>.within (.key k)
    let value := (bind v).within (.key k)
    (Bound.value fun k v more => (k, v) :: more).ap key |>.ap value |>.ap (entriesBy bind rest)

/-- Reads a map with texts as keys. -/
def asTable {α : Type} (bind : Value → Bound α) : Value → Bound (Table α)
  | .map entries => (entriesBy bind entries).map Table.ofEntries
  | _ => .misfit .notMap

end Value

end TemplateRules
