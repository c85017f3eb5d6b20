import TemplateRules.Value.Scalar

/-!
# Values

A value is a scalar, a list, a pair, a map whose entries keep their order, or a set. Values are looked
at one layer at a time, so that the same rules apply to finite trees and to graphs that share parts or
contain themselves.
-/

namespace TemplateRules

/-- One layer of a value whose parts have type `ρ`. -/
inductive Layer (ρ : Type) where
  | scalar (value : Scalar)
  | list (items : List ρ)
  | pair (first second : ρ)
  | map (entries : List (Scalar × ρ))
  | members (keys : List Scalar)

/-- A way to look into values one layer at a time, and to show them in messages. -/
structure View (ρ : Type) where
  layer : ρ → Layer ρ
  quoted : ρ → String

/-- A value used as a text. -/
def View.plain {ρ : Type} (v : View ρ) (r : ρ) : String :=
  match v.layer r with
  | .scalar s => s.plain
  | _ => v.quoted r

/-- A finite value. -/
inductive Value where
  | scalar (value : Scalar)
  | list (items : List Value)
  | pair (first second : Value)
  | map (entries : List (Scalar × Value))
  | members (keys : List Scalar)

/-! ## Maps with keys that are texts -/

/-- The value under a text key. -/
def lookupKey {ρ : Type} (key : String) : List (Scalar × ρ) → Option ρ
  | [] => none
  | (k, v) :: rest => if k = .text key then some v else lookupKey key rest

/-- Whether a map has a text key. -/
def hasKey {ρ : Type} (key : String) (entries : List (Scalar × ρ)) : Bool :=
  (lookupKey key entries).isSome

/-- The entries with a value put under a key: in the place of an equal key, else at the end. -/
def putEntry {ρ : Type} (key : Scalar) (value : ρ) : List (Scalar × ρ) → List (Scalar × ρ)
  | [] => [(key, value)]
  | (k, v) :: rest =>
    if k.sameKey key then (k, value) :: rest else (k, v) :: putEntry key value rest

/-! ## Quoted values -/

/-- A set as messages show it. -/
def quotedMembers (keys : List Scalar) : String :=
  if keys.isEmpty then "set()" else "\x7b" ++ ", ".intercalate (keys.map Scalar.quoted) ++ "\x7d"

namespace Value

/-- A text value. -/
abbrev text (s : String) : Value := .scalar (.text s)

/-- The outermost layer of a value. -/
def layer : Value → Layer Value
  | .scalar s => .scalar s
  | .list items => .list items
  | .pair a b => .pair a b
  | .map entries => .map entries
  | .members keys => .members keys

mutual

/-- The value as messages show it. -/
def quoted : Value → String
  | .scalar s => s.quoted
  | .list items => "[" ++ ", ".intercalate (quotedItems items) ++ "]"
  | .pair a b => "(" ++ a.quoted ++ ", " ++ b.quoted ++ ")"
  | .map entries => "\x7b" ++ ", ".intercalate (quotedEntries entries) ++ "\x7d"
  | .members keys => quotedMembers keys

/-- The items of a list as messages show them. -/
def quotedItems : List Value → List String
  | [] => []
  | v :: vs => v.quoted :: quotedItems vs

/-- The entries of a map as messages show them. -/
def quotedEntries : List (Scalar × Value) → List String
  | [] => []
  | (k, v) :: rest => (k.quoted ++ ": " ++ v.quoted) :: quotedEntries rest

end

/-- The view of a finite value. -/
def view : View Value := ⟨layer, quoted⟩

end Value

end TemplateRules
