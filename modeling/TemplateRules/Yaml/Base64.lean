import TemplateRules.Text.CodeRanges

/-!
# Bytes written in base 64

Every character of the alphabet stands for six bits; other characters are skipped. Padding ends the
bytes where it completes a group of four.
-/

namespace TemplateRules.Yaml.Base64

/-- The six bits of a character of the alphabet. -/
def sextet? (c : Char) : Option Nat :=
  if 'A' ≤ c && c ≤ 'Z' then some (c.toNat - 0x41)
  else if 'a' ≤ c && c ≤ 'z' then some (c.toNat - 0x47)
  else if '0' ≤ c && c ≤ '9' then some (c.toNat + 4)
  else if c == '+' then some 62
  else if c == '/' then some 63
  else none

/-- The bytes from a place on, where `place` characters of the current group have come, the last of
them leaving the bits `left`, and `pads` padding characters directly before; nothing if the bytes end
inside a group. -/
def bytesFrom : (place left pads : Nat) → List Char → Option (List UInt8)
  | place, _, _, [] => if place == 0 then some [] else none
  | place, left, pads, c :: cs =>
    if c == '=' then
      if place ≥ 2 && place + pads + 1 ≥ 4 then some []
      else bytesFrom place left (if place ≥ 2 then pads + 1 else pads) cs
    else match sextet? c with
      | none => bytesFrom place left pads cs
      | some six =>
        match place with
        | 0 => bytesFrom 1 six 0 cs
        | 1 => (bytesFrom 2 (six % 16) 0 cs).map (UInt8.ofNat (left * 4 + six / 16) :: ·)
        | 2 => (bytesFrom 3 (six % 4) 0 cs).map (UInt8.ofNat (left * 16 + six / 4) :: ·)
        | _ => (bytesFrom 0 0 0 cs).map (UInt8.ofNat (left * 64 + six) :: ·)

/-- The bytes that a text writes. -/
def read? (cs : List Char) : Option (List UInt8) := bytesFrom 0 0 0 cs

end TemplateRules.Yaml.Base64
