import TemplateRules.Number.Literal
import TemplateRules.Value.Binding

/-!
# Loosely typed scalars

Settings take numbers and truth values in several spellings: a whole number may be written as a text or
have a fraction of zeros, and a truth value may be a number or one of a dozen words.
-/

namespace TemplateRules

open Text Number

/-! ## Whole numbers -/

/-- Whether a character may stand around a numeral: a blank that is no information separator. -/
def isNumeralSpace (c : Char) : Bool := isBlank c && !(0x1C ≤ c.toNat && c.toNat ≤ 0x1F)

/-- The characters without the space around a numeral. -/
def trimNumeral (cs : List Char) : List Char :=
  ((cs.dropWhile isNumeralSpace).reverse.dropWhile isNumeralSpace).reverse

/-- Reads a whole number: a sign, digits with single underscores between them, and a fraction of
zeros. -/
def looseInteger? (cs : List Char) : Option Int := do
  let (negative, body) := splitSign cs
  let fraction := (body.dropWhile (· != '.')).drop 1
  let digits ← ungroup? (body.takeWhile (· != '.'))
  if fraction.all (· == '0') && digits.all Char.isDigit then
    let n := decimalNumber digits
    return if negative then -(n : Int) else (n : Int)
  else none

/-- The greatest number of characters of a whole number. -/
def numeralLimit : Nat := 4300

/-- Binds a text that writes a whole number. -/
def integerOfText (s : String) : Bound Int :=
  let cs := trimNumeral s.toList
  if cs.length > numeralLimit then .misfit .oversizedInteger
  else match looseInteger? cs with
    | some i => .ok i
    | none => .misfit .unreadableInteger

/-- The bound of the sizes of whole numbers that are told from larger ones. -/
def wideBound : Nat := Nat.pow 2 63

/-- Binds a number that must be whole and not too large. -/
def integerOfNumber (x : Binary64) : Bound Int :=
  match x, x.toInt? with
  | .finite _ _ _, some i => if i.natAbs < wideBound then .ok i else .misfit .oversizedInteger
  | .finite _ _ _, none => .misfit .fractional
  | _, _ => .misfit .notFinite

/-- Binds a scalar that stands for a whole number. -/
def Scalar.asInteger : Scalar → Bound Int
  | .int i => .ok i
  | .bool b => .ok (if b then 1 else 0)
  | .float x => integerOfNumber x
  | .text s => integerOfText s
  | .bytes bs =>
    match String.fromUTF8? ⟨bs.toArray⟩ with
    | some s => integerOfText s
    | none => .misfit .unreadableInteger
  | _ => .misfit .notInteger

/-! ## Truth values -/

/-- The words for truth values. -/
def truthWords : List (String × Bool) := [
  ("0", false), ("off", false), ("f", false), ("false", false), ("n", false), ("no", false),
  ("1", true), ("on", true), ("t", true), ("true", true), ("y", true), ("yes", true)]

/-- Binds a word for a truth value, without regard to the case of seven-bit letters. -/
def truthOfText (s : String) : Bound Bool :=
  match truthWords.lookup (String.ofList (s.toList.map Char.toLower)) with
  | some b => .ok b
  | none => .misfit .unreadableTruthValue

/-- Binds a whole number that stands for a truth value. -/
def truthOfInteger (i : Int) : Bound Bool :=
  if i = 0 then .ok false
  else if i = 1 then .ok true
  -- A larger number is reported as a value of another type.
  else if i.natAbs < wideBound then .misfit .unreadableTruthValue
  else .misfit .notTruthValue

/-- Binds a scalar that stands for a truth value. -/
def Scalar.asTruth : Scalar → Bound Bool
  | .bool b => .ok b
  | .int i => truthOfInteger i
  | .float x =>
    match x.toInt? with
    | some i => truthOfInteger i
    | none => .misfit .notTruthValue
  | .text s => truthOfText s
  | .bytes bs =>
    match String.fromUTF8? ⟨bs.toArray⟩ with
    | some s => truthOfText s
    | none => .misfit .unreadableTruthValue
  | _ => .misfit .notTruthValue

end TemplateRules
