import TemplateRules.Calendar
import TemplateRules.Text.Digit
import TemplateRules.Text.Quoted

/-!
# Defects

Some inputs defeat a step that no rule of the document format speaks about: a numeral without digits or
with too many of them, a date that is not on the calendar, bytes that are no text, a text without
bytes. Such a defect is no configuration error; it has a kind and a wording of its own and passes
through to whoever asked.
-/

namespace TemplateRules

/-- The kinds of defects. -/
inductive DefectKind where
  /-- A value of the right form that is out of range or cannot be read. -/
  | value
  /-- A number too large to work with. -/
  | overflow
  /-- Things that cannot be compared. -/
  | comparison
  /-- Bytes that are no text. -/
  | decoding
  /-- A text that has no bytes. -/
  | encoding
  /-- A position that does not exist. -/
  | position
  /-- A word that is not in a table. -/
  | word
  /-- A part that does not exist. -/
  | part
deriving DecidableEq

/-- An input that a step cannot work with. -/
inductive Defect where
  /-- A text that is no whole number in the base. -/
  | integer (base : Nat) (text : String)
  /-- A decimal numeral with too many digits, by their number. -/
  | digits (count : Nat)
  /-- A text that is no decimal number. -/
  | decimal (text : String)
  /-- Numbers that are no date or time. -/
  | calendar (fault : Calendar.Fault)
  /-- A code beyond those of characters. -/
  | code (value : Nat)
  /-- A word that is no source category. -/
  | category (name : String)
  /-- Pattern flags that ask for two character sets at once. -/
  | characterSets
  /-- A repetition count beyond the limit. -/
  | repetition
  /-- Offending keys of kinds that have no common order. -/
  | unorderedKeys
  /-- Bytes that are no text. -/
  | bytes
  /-- A text with surrogates, which has no bytes. -/
  | surrogates
  /-- A numeral without characters. -/
  | emptyNumeral
  /-- A word that is no truth value. -/
  | truthValue (word : String)
  /-- A text that is no point in time. -/
  | timestamp
deriving DecidableEq

namespace Defect

/-- The kind of a defect. -/
def kind : Defect → DefectKind
  | .integer _ _ => .value
  | .digits _ => .value
  | .decimal _ => .value
  | .calendar _ => .value
  | .code value => if value < 0x80000000 then .value else .overflow
  | .category _ => .value
  | .characterSets => .value
  | .repetition => .overflow
  | .unorderedKeys => .comparison
  | .bytes => .decoding
  | .surrogates => .encoding
  | .emptyNumeral => .position
  | .truthValue _ => .word
  | .timestamp => .part

/-- The wording of a defect. -/
def message : Defect → String
  | .integer base text => s!"invalid literal for int() with base {base}: " ++ Text.quoted text
  | .digits count =>
    s!"Exceeds the limit ({Text.digitLimit} digits) for integer string conversion: value has {count} digits"
      ++ "; use sys.set_int_max_str_digits() to increase the limit"
  | .decimal text => "could not convert string to float: " ++ Text.quoted text
  | .calendar fault => fault.message
  | .code _ => "chr() arg not in range(0x110000)"
  | .category name => Text.quoted name ++ " is not a valid SourceCategory"
  | .characterSets => "ASCII and UNICODE flags are incompatible"
  | .repetition => "the repetition number is too large"
  | .unorderedKeys => "'<' not supported between keys of different kinds"
  | .bytes => "invalid text encoding"
  | .surrogates => "surrogates not allowed"
  | .emptyNumeral => "string index out of range"
  | .truthValue word => Text.quoted word
  | .timestamp => "no date or time"

end Defect

end TemplateRules
