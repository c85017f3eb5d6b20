import TemplateRules.Text.CodeRanges

/-!
# Blank characters

A blank is a character that separates and shows nothing: the white space of every script and the
four information separators. Texts are trimmed of blanks before they are compared or judged empty.
-/

namespace TemplateRules.Text

/-- The blanks beyond the seven-bit range. -/
def wideBlanks : CodeRanges := .read "
  85 A0 1680 2000-200A 2028-2029 202F 205F 3000"

/-- A blank: tab to carriage return, the information separators, the space, and the wide blanks. -/
def isBlank (c : Char) : Bool :=
  let n := c.toNat
  if n < 0x80 then (9 ≤ n && n ≤ 13) || (0x1C ≤ n && n ≤ 0x20) else wideBlanks.contains c

/-- The characters without the blanks at either end. -/
def stripChars (cs : List Char) : List Char :=
  ((cs.dropWhile isBlank).reverse.dropWhile isBlank).reverse

/-- The text without the blanks at either end. -/
def strip (s : String) : String := String.ofList (stripChars s.toList)

/-- Whether the text holds nothing but blanks. -/
def isAllBlank (s : String) : Bool := s.toList.all isBlank

end TemplateRules.Text
