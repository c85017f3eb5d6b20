import TemplateRules.Pattern.Syntax
import TemplateRules.Text.Blank
import TemplateRules.Text.Case
import TemplateRules.Text.Digit
import TemplateRules.Text.Word

/-!
# Characters and character sets

When a character of the subject is the one that a pattern asks for. Under the flag that ignores case a
letter stands for all letters that share an upper case with it; a range then stands for every letter
of which it holds some form.
-/

namespace TemplateRules.Pattern

open Text

/-- The blanks of the seven-bit range that patterns know. -/
def isPlainBlank (c : Char) : Bool := c == ' ' || (9 ≤ c.toNat && c.toNat ≤ 13)

/-- Whether a character is of a category. -/
def Category.holds (kind : Category) (ascii : Bool) (c : Char) : Bool :=
  match kind with
  | .digit => if ascii then c.isDigit else isDecimal c
  | .space => if ascii then isPlainBlank c else isBlank c
  | .word => if ascii then isPlainWord c else isWord c

/-- Whether a character is the one that a pattern asks for. -/
def sameChar (f : Flags) (asked c : Char) : Bool :=
  if !f.ignoreCase then asked == c
  else if f.ascii then asked.toLower == c.toLower
  else sameLetter asked c

/-- The characters of which a range that ignores case holds one if it holds `c`. -/
def caseForms (f : Flags) (c : Char) : List Char :=
  if f.ascii then [c.toLower, c.toUpper]
  else (caseFamily (lowerChar c)).flatMap caseSources

/-- Whether a member of a character set holds a character. -/
def SetItem.holds (f : Flags) (item : SetItem) (c : Char) : Bool :=
  match item with
  -- Beyond the sixteen-bit range only the case of the subject is ignored, not that of the member.
  | .char a =>
    if f.ignoreCase && 0x10000 ≤ a.toNat then a == lowerChar c else sameChar f a c
  | .range a b =>
    if f.ignoreCase then (caseForms f c).any fun x => a ≤ x && x ≤ b
    else a ≤ c && c ≤ b
  | .category kind negated => kind.holds f.ascii c != negated

/-- Whether a character set holds a character. -/
def setHolds (f : Flags) (negated : Bool) (items : List SetItem) (c : Char) : Bool :=
  items.any (·.holds f c) != negated

/-- The test that a form makes on one character, if that is all it does. -/
def Form.charTest? (f : Flags) : Form → Option (Char → Bool)
  | .char a => some (sameChar f a)
  | .notChar a => some fun c => !sameChar f a c
  | .set negated items => some (setHolds f negated items)
  | .any => some fun c => f.dotAll || c != '\n'
  | _ => none

end TemplateRules.Pattern
