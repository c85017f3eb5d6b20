import TemplateRules.Text.CodeRanges

/-!
# Digits of all scripts

Every script with decimal digits holds them in a run of ten that begins with its zero, so a digit's
value is its distance from that zero. A few further characters (superscripts, circled digits) count
as digits without having a place in a decimal numeral.
-/

namespace TemplateRules.Text

/-- The zeros of the scripts beyond the seven-bit range. -/
def wideZeros : List Nat := readCodes "
  660 6F0 7C0 966 9E6 A66 AE6 B66 BE6 C66 CE6 D66 DE6 E50 ED0 F20 1040 1090 17E0 1810 1946 19D0
  1A80 1A90 1B50 1BB0 1C40 1C50 A620 A8D0 A900 A9D0 A9F0 AA50 ABF0 FF10 104A0 10D30 11066 110F0
  11136 111D0 112F0 11450 114D0 11650 116C0 11730 118E0 11950 11C50 11D50 11DA0 16A60 16AC0
  16B50 1D7CE 1D7D8 1D7E2 1D7EC 1D7F6 1E140 1E2F0 1E950 1FBF0"

/-- The digits beyond the seven-bit range that stand in no decimal numeral. -/
def looseDigits : CodeRanges := .read "
  B2-B3 B9 1369-1371 19DA 2070 2074-2079 2080-2089 2460-2468 2474-247C 2488-2490 24EA 24F5-24FD
  24FF 2776-277E 2780-2788 278A-2792 10A40-10A43 10E60-10E68 11052-1105A 1F100-1F10A"

/-- The value of a decimal digit of any script. -/
def decimalValue? (c : Char) : Option Nat :=
  let n := c.toNat
  if n < 0x80 then
    if 0x30 ≤ n && n ≤ 0x39 then some (n - 0x30) else none
  else (wideZeros.find? fun z => z ≤ n && n ≤ z + 9).map (n - ·)

/-- Whether the character is a decimal digit of some script. -/
def isDecimal (c : Char) : Bool := (decimalValue? c).isSome

/-- Whether the character is a digit of any kind. -/
def isDigit (c : Char) : Bool := isDecimal c || (0x80 ≤ c.toNat && looseDigits.contains c)

/-- Whether the text has characters and all of them are digits of any kind. -/
def isAllDigits (cs : List Char) : Bool := !cs.isEmpty && cs.all isDigit

/-- The number that a run of decimal digits writes; other characters count as zero. -/
def decimalNumber (cs : List Char) : Nat :=
  cs.foldl (fun n c => n * 10 + (decimalValue? c).getD 0) 0

/-- The greatest number of digits of a decimal numeral that is read as a number where length counts. -/
def digitLimit : Nat := 4300

end TemplateRules.Text
