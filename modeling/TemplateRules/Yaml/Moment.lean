import TemplateRules.Calendar
import TemplateRules.Text.Digit

/-!
# Dates and points in time in documents

A date is written as year, month and day with dashes between them. A time of day may follow it, after
a `T` or blanks, with a fraction of the second and an offset from universal time.

## Main definitions

* `Moment.read?`: reads the numbers of a date or point in time
* `Moment.date`, `Moment.timestamp`: what the numbers name
-/

namespace TemplateRules.Yaml

/-- A time of day as it is written. -/
structure TimeOfDay where
  hour : Nat
  minute : Nat
  second : Nat
  fraction : List Char
  /-- The offset from universal time in minutes. -/
  offset : Option Int

/-- A date, and a time of day if one is written. -/
structure Moment where
  year : Nat
  month : Nat
  day : Nat
  time : Option TimeOfDay

namespace Moment

/-- The number of `least` to `most` digits, and what follows. -/
def digits? (least most : Nat) (cs : List Char) : Option (Nat × List Char) :=
  let ds := (cs.take most).takeWhile Char.isDigit
  if least ≤ ds.length then some (Text.decimalNumber ds, cs.drop ds.length) else none

/-- What follows a character. -/
def after? (c : Char) : List Char → Option (List Char)
  | d :: cs => if c == d then some cs else none
  | [] => none

/-- Whether a character is a space or a tab. -/
def isGap (c : Char) : Bool := c == ' ' || c == '\t'

/-- What follows the mark between date and time. -/
def afterMark? : List Char → Option (List Char)
  | c :: cs =>
    if c == 'T' || c == 't' then some cs
    else if isGap c then some (cs.dropWhile isGap) else none
  | [] => none

/-- The digits after a point, and what follows. -/
def fractionOf : List Char → List Char × List Char
  | '.' :: cs => (cs.takeWhile Char.isDigit, cs.dropWhile Char.isDigit)
  | cs => ([], cs)

/-- The offset that hours and possibly minutes give, up to the end. -/
def signedOffset? (negative : Bool) (cs : List Char) : Option Int := do
  let (hours, rest) ← digits? 1 2 cs
  let minutes ← match rest with
    | [] => some 0
    | ':' :: rest =>
      match digits? 2 2 rest with
      | some (n, []) => some n
      | _ => none
    | _ => none
  let offset : Int := hours * 60 + minutes
  return if negative then -offset else offset

/-- The offset that is written up to the end, or that there is none. -/
def offset? (cs : List Char) : Option (Option Int) :=
  if cs.isEmpty then some none
  else match cs.dropWhile isGap with
    | ['Z'] => some (some 0)
    | '+' :: rest => (signedOffset? false rest).map some
    | '-' :: rest => (signedOffset? true rest).map some
    | _ => none

/-- Reads a time of day up to the end. -/
def time? (cs : List Char) : Option TimeOfDay := do
  let (hour, cs) ← digits? 1 2 (← afterMark? cs)
  let (minute, cs) ← digits? 2 2 (← after? ':' cs)
  let (second, cs) ← digits? 2 2 (← after? ':' cs)
  let (fraction, cs) := fractionOf cs
  return ⟨hour, minute, second, fraction, ← offset? cs⟩

/-- Reads a date and possibly a time of day. -/
def read? (cs : List Char) : Option Moment := do
  let (year, cs) ← digits? 4 4 cs
  let (month, cs) ← digits? 1 2 (← after? '-' cs)
  let (day, cs) ← digits? 1 2 (← after? '-' cs)
  if cs.isEmpty then return ⟨year, month, day, none⟩
  else return ⟨year, month, day, some (← time? cs)⟩

/-- Whether a plain scalar is a date or point in time: a date alone needs all its digits. -/
def isPlainForm (cs : List Char) : Bool :=
  match read? cs with
  | some ⟨_, _, _, none⟩ => cs.length == 10
  | some _ => true
  | none => false

/-- The microseconds that the digits of a fraction give; digits beyond the sixth do not count. -/
def microseconds (fraction : List Char) : Nat :=
  let ds := fraction.take 6
  Text.decimalNumber ds * Nat.pow 10 (6 - ds.length)

/-- The point in time that a date and a time of day name. -/
def timestamp (m : Moment) (t : TimeOfDay) : Except Calendar.Fault Calendar.Timestamp :=
  Calendar.Timestamp.of m.year m.month m.day t.hour t.minute t.second (microseconds t.fraction) t.offset

/-- The date without a time of day. -/
def date (m : Moment) : Except Calendar.Fault Calendar.Date :=
  Calendar.Date.of m.year m.month m.day

end Moment

end TemplateRules.Yaml
