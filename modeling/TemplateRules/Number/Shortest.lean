import TemplateRules.Number.Binary64

/-!
# The shortest decimal text of a binary number

A number is written with the fewest digits that no other number of the format is nearer to, and
among those with the digits nearest to it. Whether a decimal reads back is decided by comparing it
with the two ends of the interval of reals that round to the number; the ends themselves round to it
exactly if its mantissa is even.
-/

namespace TemplateRules.Number

open Binary64 (ratio)

/-! ## Choice of the digits -/

/-- The reals that round to a number: the ends of the interval over a common denominator. -/
structure RoundingInterval where
  low : Nat
  value : Nat
  high : Nat
  den : Nat
  /-- Whether the ends belong to the interval. -/
  closed : Bool

/-- The interval of `m · 2^q`. The gap below a power of two is half as wide as the one above. -/
def roundingInterval (m : Nat) (q : Int) : RoundingInterval :=
  let (unit, den) := ratio 1 (q - 2)
  let narrow := m == Nat.pow 2 52 && q > -1074
  { low := (4 * m - (if narrow then 1 else 2)) * unit
    value := 4 * m * unit
    high := (4 * m + 2) * unit
    den := den
    closed := m % 2 == 0 }

/-- Whether the decimal `digits · 10^place` rounds to the number. -/
def RoundingInterval.holds (i : RoundingInterval) (digits : Nat) (place : Int) : Bool :=
  let (n, d) := if place < 0 then (digits, Nat.pow 10 (-place).toNat) else (digits * Nat.pow 10 place.toNat, 1)
  if i.closed then i.low * d ≤ n * i.den && n * i.den ≤ i.high * d
  else i.low * d < n * i.den && n * i.den < i.high * d

/-- Twice the value of the interval's number over `10^place`, and the same for `digits`. -/
def RoundingInterval.twice (i : RoundingInterval) (digits : Nat) (place : Int) : Nat × Nat :=
  if place < 0 then (2 * i.value * Nat.pow 10 (-place).toNat, (2 * digits + 1) * i.den)
  else (2 * i.value, (2 * digits + 1) * i.den * Nat.pow 10 place.toNat)

/-- The nearer of the two neighbours of the number on the grid `10^place` that reads back. -/
def RoundingInterval.onGrid? (i : RoundingInterval) (place : Int) : Option Nat :=
  let below :=
    if place < 0 then i.value * Nat.pow 10 (-place).toNat / i.den
    else i.value / (i.den * Nat.pow 10 place.toNat)
  match i.holds below place, i.holds (below + 1) place with
  | true, false => some below
  | false, true => some (below + 1)
  | false, false => none
  | true, true =>
    let (twice, middle) := i.twice below place
    if twice < middle || (twice == middle && below % 2 == 0) then some below else some (below + 1)

/-- The least `k` with the number below `10^k`. -/
def decimalPoint (num den : Nat) : Int :=
  let guess : Int := ((num.log2 : Int) - (den.log2 : Int)) * 30103 / 100000 - 1
  let below (k : Int) : Bool :=
    if k < 0 then num * Nat.pow 10 (-k).toNat < den else num < den * Nat.pow 10 k.toNat
  ((List.range 5).map fun (j : Nat) => guess + (j : Int)).find? below |>.getD guess

/-- The chosen digits of a positive number, and the place of its decimal point. -/
def shortestDigits (m : Nat) (q : Int) : List Char × Int :=
  let i := roundingInterval m q
  let point := decimalPoint i.value i.den
  let found := (List.range 17).findSome? fun n =>
    (i.onGrid? (point - (n + 1 : Nat))).map fun digits => (digits, point - (n + 1 : Nat))
  match found with
  | some (digits, place) =>
    let text := Nat.toDigits 10 digits
    let kept := (text.reverse.dropWhile (· == '0')).reverse
    (kept, place + text.length)
  | none => (Nat.toDigits 10 (i.value / i.den), ((Nat.toDigits 10 (i.value / i.den)).length : Nat))

/-! ## Layout -/

/-- Zeros in a row. -/
def zeros (n : Nat) : List Char := List.replicate n '0'

/-- An exponent has a sign and at least two digits. -/
def exponentText (e : Int) : List Char :=
  let digits := Nat.toDigits 10 e.natAbs
  (if e < 0 then '-' else '+') :: (zeros (2 - digits.length) ++ digits)

/-- Numbers from `10^-4` up to `10^16` are written positionally with at least one digit after the
point, all others with an exponent. -/
def layoutDecimal (digits : List Char) (point : Int) : List Char :=
  if -4 < point && point ≤ 16 then
    if point ≤ 0 then ['0', '.'] ++ zeros (-point).toNat ++ digits
    else
      let whole := digits.take point.toNat
      let rest := digits.drop point.toNat
      whole ++ zeros (point.toNat - whole.length) ++ ['.'] ++ (if rest.isEmpty then ['0'] else rest)
  else
    match digits with
    | [] => []
    | d :: rest =>
      d :: ((if rest.isEmpty then [] else '.' :: rest) ++ 'e' :: exponentText (point - 1))

/-- The text of a number. -/
def Binary64.text : Binary64 → String
  | .undefined => "nan"
  | .infinite s => if s then "-inf" else "inf"
  | .finite s m q =>
    let body := if m == 0 then ['0', '.', '0'] else
      let (digits, point) := shortestDigits m q
      layoutDecimal digits point
    String.ofList (if s then '-' :: body else body)

end TemplateRules.Number
