import TemplateRules.Text.Search
import TemplateRules.Yaml.Moment

/-!
# Tags

The tag of a node says what kind of value it is. Most tags are not written: a collection without one
is a sequence or a mapping, and a plain scalar has the tag of the first form that its text has.

## Main definitions

* `Tag`: the tags that documents may use
* `Tag.ofPlain`: the tag of a plain scalar
-/

namespace TemplateRules.Yaml

/-- The kind of value that a node is. -/
inductive Tag where
  | null
  | bool
  | int
  | float
  | binary
  | timestamp
  | omap
  | pairs
  | set
  | str
  | seq
  | map
  /-- The mark of entries that are taken from other mappings. -/
  | merge
  /-- The mark of the entry that stands for a whole mapping. -/
  | value
  | unknown
deriving DecidableEq

namespace Tag

/-- What the names of the standard tags begin with. -/
def standardStart : String := "tag:yaml.org,2002:"

/-- The standard tags by name. -/
def standardNames : List (String × Tag) := [
  ("null", .null), ("bool", .bool), ("int", .int), ("float", .float), ("binary", .binary),
  ("timestamp", .timestamp), ("omap", .omap), ("pairs", .pairs), ("set", .set), ("str", .str),
  ("seq", .seq), ("map", .map), ("merge", .merge), ("value", .value)]

/-- The tag that a full name names. -/
def ofName (name : String) : Tag :=
  match Text.after? standardStart name with
  | some short => (standardNames.lookup short).getD .unknown
  | none => .unknown

/-! ## The forms of plain scalars -/

/-- The words that are truth values. -/
def boolWords : List String := ["yes", "Yes", "YES", "no", "No", "NO", "true", "True", "TRUE", "false",
  "False", "FALSE", "on", "On", "ON", "off", "Off", "OFF"]

/-- The words that are null, as is a text without characters. -/
def nullWords : List String := ["~", "null", "Null", "NULL"]

/-- The characters after a sign. -/
def afterSign : List Char → List Char
  | '-' :: cs => cs
  | '+' :: cs => cs
  | cs => cs

/-- Whether a character is a digit below a base or an underscore. -/
def isDigitOr_ (base : Nat) (c : Char) : Bool :=
  c == '_' || ((Text.hexValue? c).any (· < base))

/-- What follows a number whose first digit is given by `first`, if there is one. -/
def afterNumber? (first : Char → Bool) : List Char → Option (List Char)
  | [] => none
  | c :: cs => if first c then some (cs.dropWhile (isDigitOr_ 10)) else none

/-- What follows the sixtieths from here on: a colon and at most two digits each; and whether there
are any. -/
def afterSixtieths : List Char → List Char × Bool
  | ':' :: a :: b :: cs =>
    if '0' ≤ a && a ≤ '5' && b.isDigit then ((afterSixtieths cs).1, true)
    else if a.isDigit then
      let (rest, _) := afterSixtieths (b :: cs)
      (rest, true)
    else (':' :: a :: b :: cs, false)
  | [':', a] => if a.isDigit then ([], true) else ([':', a], false)
  | cs => (cs, false)

/-- Whether a text is an exponent with a sign, or nothing. -/
def isExponent : List Char → Bool
  | [] => true
  | c :: s :: cs =>
    (c == 'e' || c == 'E') && (s == '-' || s == '+') && !cs.isEmpty && cs.all Char.isDigit
  | _ => false

/-- Whether a text is a decimal number with a point. -/
def isDecimalForm (cs : List Char) : Bool :=
  match afterNumber? Char.isDigit (afterSign cs) with
  | some ('.' :: rest) => isExponent (rest.dropWhile (isDigitOr_ 10))
  | _ => false

/-- Whether a text is a decimal number that begins with the point. -/
def isFractionForm : List Char → Bool
  | '.' :: cs =>
    match afterNumber? Char.isDigit cs with
    | some rest => isExponent rest
    | none => false
  | _ => false

/-- Whether a text is a number of sixtieths with a point. -/
def isSixtiethFraction (cs : List Char) : Bool :=
  match (afterNumber? Char.isDigit (afterSign cs)).map afterSixtieths with
  | some ('.' :: rest, true) => rest.all (isDigitOr_ 10)
  | _ => false

/-- Whether a text is an infinity or the undefined number. -/
def isSpecialFloat (cs : List Char) : Bool :=
  [".inf", ".Inf", ".INF"].any (·.toList == afterSign cs) || [".nan", ".NaN", ".NAN"].any (·.toList == cs)

/-- Whether a text has the form of a number with a point. -/
def isFloatForm (cs : List Char) : Bool :=
  isDecimalForm cs || isFractionForm cs || isSixtiethFraction cs || isSpecialFloat cs

/-- Whether a text has the form of a whole number. -/
def isIntForm (cs : List Char) : Bool :=
  let body := afterSign cs
  let digits (base : Nat) (cs : List Char) : Bool := !cs.isEmpty && cs.all (isDigitOr_ base)
  (match body with
  | '0' :: 'b' :: rest => digits 2 rest
  | '0' :: 'x' :: rest => digits 16 rest
  | ['0'] => true
  | '0' :: rest => digits 8 rest
  | _ => false)
    || (match afterNumber? (fun c => c.isDigit && c != '0') body with
      | some [] => true
      | some rest => afterSixtieths rest == ([], true)
      | none => false)

/-- The tag of a plain scalar. A line end at its end is not seen. -/
def ofPlain (text : String) : Tag :=
  let cs := text.toList
  let cs := if cs.getLast? == some '\n' then cs.dropLast else cs
  let word := String.ofList cs
  if boolWords.contains word then .bool
  else if isFloatForm cs then .float
  else if isIntForm cs then .int
  else if word == "<<" then .merge
  else if text.isEmpty || nullWords.contains word then .null
  else if Moment.isPlainForm cs then .timestamp
  else if word == "=" then .value
  else if ["!", "&", "*"].contains word then .unknown
  else .str

end Tag

end TemplateRules.Yaml
