import TemplateRules.Value.Binding

/-!
# The order of keys

Texts are ordered by their characters, numbers by what they stand for, and so on within every kind of
scalar; scalars of different kinds have no order.
-/

namespace TemplateRules

open Number (Binary64)

/-- Whether the first number is above the second one; an undefined number is above none. -/
def Number.Binary64.above (x y : Binary64) : Bool :=
  match x, y with
  | .undefined, _ => false
  | _, .undefined => false
  | .infinite s, .infinite t => !s && t
  | .infinite s, .finite .. => !s
  | .finite .., .infinite t => t
  | .finite s m q, .finite t n r =>
    let (a, b) := Binary64.ratio m q
    let (c, d) := Binary64.ratio n r
    let left : Int := if s then -(a : Int) else a
    let right : Int := if t then -(c : Int) else c
    right * b < left * d

/-- A whole number as a number whose value is compared. -/
def Number.Binary64.ofExactInt (i : Int) : Binary64 := .finite (i < 0) i.natAbs 0

/-- The number that a number or truth value stands for. -/
def Scalar.number? : Scalar → Option Binary64
  | .bool b => some (.ofExactInt (if b then 1 else 0))
  | .int i => some (.ofExactInt i)
  | .float x => some x
  | _ => none

/-- Whether the first scalar comes after the second one, if they have an order. -/
def Scalar.after? (a b : Scalar) : Option Bool :=
  match a, b with
  | .text s, .text t => some (t < s)
  | .bytes s, .bytes t => some (t.map UInt8.toNat < s.map UInt8.toNat)
  | .date s, .date t => some (t.ordinal < s.ordinal)
  -- Points in time with and without an offset cannot be compared.
  | .timestamp s, .timestamp t =>
    if s.offset.isSome == t.offset.isSome then some (t.instant < s.instant) else none
  | _, _ =>
    match a.number?, b.number? with
    | some x, some y => some (x.above y)
    | _, _ => none

/-- Whether the first step comes after the second one, if they have an order. -/
def PathStep.after? : PathStep → PathStep → Option Bool
  | .key a, .key b => a.after? b
  | .index i, .index j => some (j < i)
  | _, _ => none

/-- Whether two steps are the same. -/
def PathStep.same : PathStep → PathStep → Bool
  | .key a, .key b => a.sameKey b
  | .index i, .index j => i == j
  | _, _ => false

/-- Whether the first path comes after the second one: the first steps that differ decide. -/
def pathAfter? : List PathStep → List PathStep → Option Bool
  | [], _ => some false
  | _ :: _, [] => some true
  | a :: as, b :: bs => if a.same b then pathAfter? as bs else a.after? b

end TemplateRules
