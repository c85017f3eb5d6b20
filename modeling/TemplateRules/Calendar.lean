/-!
# Dates and points in time

A document may hold dates and points in time, with or without an offset from universal time. Only
those of the calendar exist: building one from numbers names the first number that is out of range.
-/

namespace TemplateRules.Calendar

/-- Why numbers are no date or time. -/
inductive Fault where
  | year (value : Nat)
  | month
  | day
  | hour
  | minute
  | second
  /-- An offset of a day or more, in minutes. -/
  | offset (minutes : Int)
deriving DecidableEq

/-- A day of the calendar. -/
structure Date where
  year : Nat
  month : Nat
  day : Nat
deriving DecidableEq

/-- A point in time, with its offset from universal time in minutes if it has one. -/
structure Timestamp where
  date : Date
  hour : Nat
  minute : Nat
  second : Nat
  microsecond : Nat
  offset : Option Int
deriving DecidableEq

/-! ## Validity -/

/-- Whether a year has a leap day. -/
def isLeap (year : Nat) : Bool := year % 4 == 0 && (year % 100 != 0 || year % 400 == 0)

/-- The number of days of a month. -/
def daysIn (year month : Nat) : Nat :=
  if month == 2 then (if isLeap year then 29 else 28)
  else if month == 4 || month == 6 || month == 9 || month == 11 then 30 else 31

/-- The date that three numbers name. -/
def Date.of (year month day : Nat) : Except Fault Date :=
  if year == 0 then .error (.year year)
  else if month < 1 || 12 < month then .error .month
  else if day < 1 || daysIn year month < day then .error .day
  else .ok ⟨year, month, day⟩

/-- An offset must be shorter than a day. -/
def checkOffset (minutes : Int) : Except Fault Unit :=
  if minutes.natAbs < 24 * 60 then .ok () else .error (.offset minutes)

/-- The point in time that numbers name. The offset is judged before the rest. -/
def Timestamp.of (year month day hour minute second microsecond : Nat) (offset : Option Int) :
    Except Fault Timestamp := do
  if let some minutes := offset then checkOffset minutes
  let date ← Date.of year month day
  if 23 < hour then .error .hour
  else if 59 < minute then .error .minute
  else if 59 < second then .error .second
  else return ⟨date, hour, minute, second, microsecond, offset⟩

/-! ## Texts -/

/-- A number padded with zeros to a width. -/
def padded (width n : Nat) : String :=
  let digits := Nat.toDigits 10 n
  String.ofList (List.replicate (width - digits.length) '0' ++ digits)

/-- A span of minutes, by whole days and the seconds beyond them. -/
def spanText (minutes : Int) : String :=
  let total := minutes * 60
  let days := total.fdiv 86400
  let seconds := total.fmod 86400
  let parts := (if days == 0 then [] else [s!"days={days}"])
    ++ (if seconds == 0 then [] else [s!"seconds={seconds}"])
  "datetime.timedelta(" ++ (if parts.isEmpty then "0" else ", ".intercalate parts) ++ ")"

/-- The wording of a fault. -/
def Fault.message : Fault → String
  | .year value => s!"year {value} is out of range"
  | .month => "month must be in 1..12"
  | .day => "day is out of range for month"
  | .hour => "hour must be in 0..23"
  | .minute => "minute must be in 0..59"
  | .second => "second must be in 0..59"
  | .offset minutes =>
    "offset must be a timedelta strictly between -timedelta(hours=24) and timedelta(hours=24), not "
      ++ spanText minutes ++ "."

/-- Year, month and day with dashes. -/
def Date.text (d : Date) : String := padded 4 d.year ++ "-" ++ padded 2 d.month ++ "-" ++ padded 2 d.day

/-- A date as messages show it. -/
def Date.quoted (d : Date) : String := s!"datetime.date({d.year}, {d.month}, {d.day})"

/-- An offset as hours and minutes with a sign. -/
def offsetText (minutes : Int) : String :=
  (if minutes < 0 then "-" else "+") ++ padded 2 (minutes.natAbs / 60) ++ ":"
    ++ padded 2 (minutes.natAbs % 60)

/-- Date and time of day, the fraction and the offset only where there is one. -/
def Timestamp.text (t : Timestamp) : String :=
  t.date.text ++ " " ++ padded 2 t.hour ++ ":" ++ padded 2 t.minute ++ ":" ++ padded 2 t.second
    ++ (if t.microsecond == 0 then "" else "." ++ padded 6 t.microsecond)
    ++ ((t.offset.map offsetText).getD "")

/-- A point in time as messages show it, without seconds and microseconds that are zero at its end. -/
def Timestamp.quoted (t : Timestamp) : String :=
  let fields := [t.date.year, t.date.month, t.date.day, t.hour, t.minute]
    ++ (if t.microsecond != 0 then [t.second, t.microsecond]
        else if t.second != 0 then [t.second] else [])
  let zone := match t.offset with
    | none => []
    | some minutes =>
      if minutes == 0 then ["tzinfo=datetime.timezone.utc"]
      else ["tzinfo=datetime.timezone(" ++ spanText minutes ++ ")"]
  "datetime.datetime(" ++ ", ".intercalate (fields.map toString ++ zone) ++ ")"

/-! ## Order -/

/-- The number of days since the calendar's first day. -/
def Date.ordinal (d : Date) : Nat :=
  let y := d.year - 1
  let monthDays := (List.range (d.month - 1)).foldl (fun days m => days + daysIn d.year (m + 1)) 0
  y * 365 + y / 4 - y / 100 + y / 400 + monthDays + d.day

/-- Microseconds on the universal scale, or on the local one where there is no offset. -/
def Timestamp.instant (t : Timestamp) : Int :=
  let minutes : Int := (t.date.ordinal * 24 + t.hour) * 60 + t.minute - t.offset.getD 0
  (minutes * 60 + t.second) * 1000000 + t.microsecond

/-- Points in time are the same if they are the same instant and both or neither have an offset. -/
def Timestamp.same (a b : Timestamp) : Bool :=
  a.offset.isSome == b.offset.isSome && a.instant == b.instant

end TemplateRules.Calendar
