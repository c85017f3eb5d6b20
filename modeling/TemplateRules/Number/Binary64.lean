/-!
# Binary numbers of double precision

A number of this format is `m · 2^q` with `m` below `2^53` and `q` at least `-1074`, an infinity, or
undefined. Every operation is exact rational arithmetic followed by one rounding to the nearest
number of the format, ties to the even mantissa.
-/

namespace TemplateRules.Number

/-- A number of double precision. -/
inductive Binary64 where
  /-- The result of an undefined operation. -/
  | undefined
  /-- An infinity. -/
  | infinite (negative : Bool)
  /-- The number `mantissa · 2^exponent`, with its sign. -/
  | finite (negative : Bool) (mantissa : Nat) (exponent : Int)
deriving DecidableEq

namespace Binary64

/-- The quotient rounded to the nearest natural number, a tie to the even one. -/
def roundQuotient (num den : Nat) : Nat :=
  let q := num / den
  let r := num % den
  if 2 * r < den then q
  else if 2 * r > den then q + 1
  else if q % 2 == 0 then q else q + 1

/-- The quotient of `num · 2^(-exponent)` and `den`, as numerator and denominator. -/
def scaled (num den : Nat) (exponent : Int) : Nat × Nat :=
  if exponent < 0 then (num * Nat.pow 2 (-exponent).toNat, den) else (num, den * Nat.pow 2 exponent.toNat)

/-- The number nearest to `num / den`, for a nonzero `den`. -/
def ofRatio (negative : Bool) (num den : Nat) : Binary64 :=
  if num == 0 then .finite negative 0 0
  else
    -- The lower of the two exponents that may give a mantissa of fifty-three bits.
    let low : Int := (num.log2 : Int) - (den.log2 : Int) - 53
    let (n, d) := scaled num den low
    let exponent := max (if n / d < Nat.pow 2 53 then low else low + 1) (-1074)
    let (n, d) := scaled num den exponent
    let m := roundQuotient n d
    -- Rounding up may give one bit too many.
    let (m, exponent) := if m == Nat.pow 2 53 then (Nat.pow 2 52, exponent + 1) else (m, exponent)
    if exponent > 971 then .infinite negative else .finite negative m exponent

/-- The number nearest to `digits · 10^exponent`. -/
def ofDecimal (negative : Bool) (digits : Nat) (exponent : Int) : Binary64 :=
  -- Far outside the range no power of ten is computed.
  let magnitude := exponent + (digits.log2 : Int) * 30103 / 100000
  if digits == 0 then .finite negative 0 0
  else if magnitude > 310 then .infinite negative
  else if magnitude < -330 then .finite negative 0 0
  else if exponent < 0 then ofRatio negative digits (Nat.pow 10 (-exponent).toNat)
  else ofRatio negative (digits * Nat.pow 10 exponent.toNat) 1

/-- The number nearest to a natural number. -/
def ofNat (n : Nat) : Binary64 := ofRatio false n 1

/-- The magnitude of `m · 2^q` as a fraction. -/
def ratio (m : Nat) (q : Int) : Nat × Nat :=
  if q < 0 then (m, Nat.pow 2 (-q).toNat) else (m * Nat.pow 2 q.toNat, 1)

/-- The number with the opposite sign. -/
def neg : Binary64 → Binary64
  | .undefined => .undefined
  | .infinite s => .infinite !s
  | .finite s m q => .finite (!s) m q

/-- The number times a natural number. -/
def scale (x : Binary64) (k : Nat) : Binary64 :=
  match x with
  | .finite s m q => let (n, d) := ratio m q; ofRatio s (n * k) d
  | other => if k == 0 then .undefined else other

/-- The sum of two numbers. -/
def add : Binary64 → Binary64 → Binary64
  | .finite s m q, .finite t n r =>
    let (a, b) := ratio m q
    let (c, d) := ratio n r
    if s == t then ofRatio s (a * d + c * b) (b * d)
    else if c * b ≤ a * d then
      ofRatio (s && a * d != c * b) (a * d - c * b) (b * d)
    else ofRatio t (c * b - a * d) (b * d)
  | .infinite s, .infinite t => if s == t then .infinite s else .undefined
  | .undefined, _ => .undefined
  | _, .undefined => .undefined
  | .infinite s, _ => .infinite s
  | _, .infinite t => .infinite t

/-- The whole number that this number equals, if it does. -/
def toInt? : Binary64 → Option Int
  | .finite s m q =>
    let (n, d) := ratio m q
    if n % d == 0 then some (if s then -((n / d : Nat) : Int) else ((n / d : Nat) : Int)) else none
  | _ => none

end Binary64

end TemplateRules.Number
