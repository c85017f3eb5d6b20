import TemplateRules.Text.Quoted
import TemplateRules.Value.Tree

/-!
# Canonical texts

The canonical text of a value is its compact notation in seven-bit characters, with the entries of
every map in the order of their keys. Values that differ only in the order of their entries have the
same canonical text.
-/

namespace TemplateRules

namespace Text

/-- A sixteen-bit unit as an escape. -/
def unitEscape (n : Nat) : List Char := '\\' :: 'u' :: hexText 4 n

/-- A character inside a canonical text: seven-bit characters that show stand for themselves, others
are escaped by name or by their sixteen-bit units. -/
def canonicalChar (c : Char) : List Char :=
  let n := c.toNat
  if c == '"' then ['\\', '"']
  else if c == '\\' then ['\\', '\\']
  else if c == '\n' then ['\\', 'n']
  else if c == '\r' then ['\\', 'r']
  else if c == '\t' then ['\\', 't']
  else if n == 8 then ['\\', 'b']
  else if n == 12 then ['\\', 'f']
  else if 0x20 ≤ n && n ≤ 0x7E then [c]
  else if n < 0x10000 then unitEscape n
  else unitEscape (0xD800 + (n - 0x10000) / 0x400) ++ unitEscape (0xDC00 + (n - 0x10000) % 0x400)

/-- A text in canonical notation. -/
def canonicalText (cs : List Char) : List Char := '"' :: (cs.flatMap canonicalChar ++ ['"'])

/-- Parts with a comma between neighbours. -/
def commaSeparated (parts : List (List Char)) : List Char := [','].intercalate parts

end Text

/-- A scalar in canonical notation. -/
def Scalar.canonical : Scalar → List Char
  | .null => "null".toList
  | .bool b => (if b then "true" else "false").toList
  | .int i => (toString i).toList
  | s => Text.canonicalText s.plain.toList

namespace Value

mutual

/-- The value without the entries of maps that are null. -/
def withoutNulls : Value → Value
  | .map entries => .map (entriesWithoutNulls entries)
  | .list items => .list (itemsWithoutNulls items)
  | .scalar s => .scalar s
  | .pair a b => .pair a.withoutNulls b.withoutNulls
  | .members keys => .members keys

/-- The items of a list, each without the entries that are null. -/
def itemsWithoutNulls : List Value → List Value
  | [] => []
  | v :: vs => v.withoutNulls :: itemsWithoutNulls vs

/-- The entries that are not null. -/
def entriesWithoutNulls : List (Scalar × Value) → List (Scalar × Value)
  | [] => []
  | (_, .scalar .null) :: rest => entriesWithoutNulls rest
  | (k, v) :: rest => (k, v.withoutNulls) :: entriesWithoutNulls rest

end

/-- The entries of a map in canonical notation, in the order of their keys. -/
def canonicalEntries (entries : List (String × List Char)) : List Char :=
  let sorted := entries.mergeSort fun a b => a.1 ≤ b.1
  '\x7b' :: (Text.commaSeparated
    (sorted.map fun (k, v) => Text.canonicalText k.toList ++ ':' :: v) ++ ['\x7d'])

mutual

/-- The canonical text of a value. -/
def canonical : Value → List Char
  | .scalar s => s.canonical
  | .list items => '[' :: (Text.commaSeparated (canonicalItems items) ++ [']'])
  | .pair a b => '[' :: (Text.commaSeparated [a.canonical, b.canonical] ++ [']'])
  | .map entries => canonicalEntries (canonicalPairs entries)
  | .members keys => '[' :: (Text.commaSeparated (keys.map Scalar.canonical) ++ [']'])

/-- The canonical texts of the items of a list. -/
def canonicalItems : List Value → List (List Char)
  | [] => []
  | v :: vs => v.canonical :: canonicalItems vs

/-- The keys and canonical texts of the entries of a map. -/
def canonicalPairs : List (Scalar × Value) → List (String × List Char)
  | [] => []
  | (k, v) :: rest => (k.plain, v.canonical) :: canonicalPairs rest

end

end Value

end TemplateRules
