import TemplateRules.Number.Binary64
import TemplateRules.Text.Blank
import TemplateRules.Text.Digit
import TemplateRules.Text.Case

/-!
# Reading numbers

A numeral may stand between blanks, have a sign, use the decimal digits of any script, and separate
digits by single underscores. The number of its digits is limited if it is a decimal one.
-/

namespace TemplateRules.Number

open Text

/-- The value of a digit or of a seven-bit letter that stands for a digit above nine. -/
def digitValue? (c : Char) : Option Nat :=
  match decimalValue? c with
  | some n => some n
  | none =>
    if 'a' ≤ c && c ≤ 'z' then some (c.toNat - 0x57)
    else if 'A' ≤ c && c ≤ 'Z' then some (c.toNat - 0x37)
    else none

/-- The value of a digit of the base. -/
def baseDigit? (base : Nat) (c : Char) : Option Nat :=
  (digitValue? c).filter (· < base)

/-- The digits of a run in which single underscores stand only between digits. -/
def ungroup? : List Char → Option (List Char)
  | [] => none
  | [c] => if c == '_' then none else some [c]
  | c :: d :: cs =>
    if c == '_' then none
    else if d == '_' then (ungroup? cs).map (c :: ·)
    else (ungroup? (d :: cs)).map (c :: ·)

/-- A sign and what follows it. -/
def splitSign : List Char → Bool × List Char
  | '-' :: cs => (true, cs)
  | '+' :: cs => (false, cs)
  | cs => (false, cs)

/-- What follows the mark of a base other than ten, and one underscore after it. -/
def dropBaseMark (base : Nat) (cs : List Char) : List Char :=
  let mark := if base == 2 then "bB" else if base == 8 then "oO" else if base == 16 then "xX" else ""
  match cs with
  | '0' :: m :: rest =>
    if mark.toList.contains m then
      match rest with
      | '_' :: more => more
      | _ => rest
    else cs
  | _ => cs

/-- A run of decimal digits, possibly empty, with underscores between them, and what follows. -/
def digitRun (cs : List Char) : List Char × List Char :=
  (cs.takeWhile fun c => isDecimal c || c == '_', cs.dropWhile fun c => isDecimal c || c == '_')

/-- The number of digits that a numeral begins with, if a decimal numeral may not have so many. -/
def excessDigits? (cs : List Char) : Option Nat :=
  ((ungroup? (digitRun (splitSign (stripChars cs)).2).1).map List.length).filter (digitLimit < ·)

/-- Reads a whole number in a base. -/
def readInteger? (base : Nat) (cs : List Char) : Option Int := do
  let (negative, body) := splitSign (stripChars cs)
  let digits ← ungroup? (dropBaseMark base body)
  let values ← digits.mapM (baseDigit? base)
  -- The digits of the bases that are powers of two are not counted.
  if base == 10 && digitLimit < digits.length then none
  else
    let n := values.foldl (fun n d => n * base + d) 0
    return if negative then -(n : Int) else (n : Int)

/-- The digits of a run that may be empty. -/
def ungroupRun? (cs : List Char) : Option (List Char) := if cs.isEmpty then some [] else ungroup? cs

/-- Reads an exponent: nothing, or its mark, a sign and digits, up to the end. -/
def readExponent? : List Char → Option Int
  | [] => some 0
  | c :: cs =>
    if c == 'e' || c == 'E' then do
      let (negative, body) := splitSign cs
      let digits ← ungroup? body
      if digits.all isDecimal then
        return if negative then -(decimalNumber digits : Int) else (decimalNumber digits : Int)
      else none
    else none

/-- Reads a decimal number with an optional fraction and exponent, an infinity, or the undefined
number. -/
def readDecimal? (cs : List Char) : Option Binary64 :=
  let (negative, body) := splitSign (stripChars cs)
  let word := String.ofList (body.map Char.toLower)
  if word == "inf" || word == "infinity" then some (.infinite negative)
  else if word == "nan" then some .undefined
  else do
    let (whole, rest) := digitRun body
    -- Either side of the point may be empty, but not both.
    let (fraction, rest) := match rest with
      | '.' :: more => digitRun more
      | _ => ([], rest)
    let whole ← ungroupRun? whole
    let fraction ← ungroupRun? fraction
    if whole.isEmpty && fraction.isEmpty then none
    else
      let exponent ← readExponent? rest
      return .ofDecimal negative (decimalNumber (whole ++ fraction)) (exponent - fraction.length)

end TemplateRules.Number
