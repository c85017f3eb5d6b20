import TemplateRules.Calendar
import TemplateRules.Number.Shortest
import TemplateRules.Text.Quoted

/-!
# Scalars

The values without parts that a document may hold. A scalar has a plain text, under which it is used
as a text, and a quoted one, under which messages show it.
-/

namespace TemplateRules

open Number (Binary64)

/-- A value without parts. -/
inductive Scalar where
  | null
  | bool (value : Bool)
  | int (value : Int)
  | float (value : Binary64)
  | text (value : String)
  | bytes (value : List UInt8)
  | date (value : Calendar.Date)
  | timestamp (value : Calendar.Timestamp)
deriving DecidableEq

namespace Scalar

/-- The scalar as messages show it, a whole number with all its digits however many they are. -/
def quoted : Scalar → String
  | .null => "None"
  | .bool b => if b then "True" else "False"
  | .int i => toString i
  | .float x => x.text
  | .text s => Text.quoted s
  | .bytes bs => Text.quotedBytes bs
  | .date d => d.quoted
  | .timestamp t => t.quoted

/-- The scalar used as a text. -/
def plain : Scalar → String
  | .text s => s
  | .date d => d.text
  | .timestamp t => t.text
  | other => other.quoted

/-- The whole number that a number or truth value stands for as a key. -/
def wholeNumber? : Scalar → Option Int
  | .bool b => some (if b then 1 else 0)
  | .int i => some i
  | .float x => x.toInt?
  | _ => none

/-- Whether two scalars are the same key: numbers and truth values by what they stand for, points in
time by the instant. -/
def sameKey (a b : Scalar) : Bool :=
  match a, b with
  | .timestamp s, .timestamp t => s.same t
  | _, _ =>
    match a.wholeNumber?, b.wholeNumber? with
    | some m, some n => m == n
    | none, none => a == b
    | _, _ => false

/-- Whether the scalar is a number; truth values are none. -/
def isNumber : Scalar → Bool
  | .int _ => true
  | .float _ => true
  | _ => false

end Scalar

end TemplateRules
