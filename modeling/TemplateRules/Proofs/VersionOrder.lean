import TemplateRules.Version.Constraint

/-!
# The order of versions

Versions are compared by their keys, and keys are ordered linearly: of two different ones exactly one is
below the other. An identifier stands in a key behind the rank of its kind, which is compared first, so that
values are compared only with values of their own kind.

## Main definitions

* `Key.order?`: keys compared place by place, where a number and a text cannot be compared

## Main results

* `Key.order?_eq`: such a comparison never comes to a number and a text
* `order_eq_eq_iff`, `isAtLeast_trans`: versions are compared consistently
* `Comparison.holds_atLeast`, `Comparison.holds_atMost`, `Comparison.sameMajor_of_sameMinor`,
  `Comparison.atLeast_of_sameMajor`: how the comparisons of constraints depend on each other
-/

namespace TemplateRules

namespace Version

/-! ## Identifiers -/

namespace Identifier

@[simp] theorem compare_number (m n : Nat) : compare (number m) (number n) = compare m n := rfl

@[simp] theorem compare_text (s t : String) : compare (text s) (text t) = compare s t := rfl

@[simp] theorem compare_number_text (n : Nat) (s : String) : compare (number n) (text s) = .lt := rfl

@[simp] theorem compare_text_number (s : String) (n : Nat) : compare (text s) (number n) = .gt := rfl

instance : Std.TransOrd Identifier where
  eq_swap {a b} := by
    cases a with
    | number m =>
      cases b with
      | number n => exact Std.OrientedOrd.eq_swap (α := Nat)
      | text t => rfl
    | text s =>
      cases b with
      | number n => rfl
      | text t => exact Std.OrientedOrd.eq_swap (α := String)
  isLE_trans {a b c} hab hbc := by
    cases a <;> cases b <;> cases c <;>
      simp only [compare_number, compare_text, compare_number_text, compare_text_number] at *
    all_goals first | exact Std.TransOrd.isLE_trans hab hbc | contradiction | rfl

instance : Std.LawfulEqOrd Identifier where
  compare_self {a} := by cases a <;> simp
  eq_of_compare {a b} h := by cases a <;> cases b <;> simp_all

/-- The mark of an identifier's kind. -/
def rank : Identifier → Nat
  | number _ => 0
  | text _ => 1

/-- The order of two values, which only values of one kind have. -/
def valueOrder? : Identifier → Identifier → Option Ordering
  | number m, number n => some (compare m n)
  | text s, text t => some (compare s t)
  | number _, text _ => none
  | text _, number _ => none

/-- Identifiers compared by their ranks and, where these are equal, by their values. -/
def order? (a b : Identifier) : Option Ordering :=
  if a.rank = b.rank then a.valueOrder? b else some (compare a.rank b.rank)

theorem order?_eq (a b : Identifier) : a.order? b = some (compare a b) := by
  cases a <;> cases b <;> rfl

/-- Tags compared at the first place where they differ; a tag that ends there is below the other. -/
def listOrder? : List Identifier → List Identifier → Option Ordering
  | [], [] => some .eq
  | [], _ :: _ => some .lt
  | _ :: _, [] => some .gt
  | a :: as, b :: bs => if a = b then listOrder? as bs else a.order? b

theorem listOrder?_eq (as bs : List Identifier) : listOrder? as bs = some (compare as bs) := by
  induction as generalizing bs with
  | nil => cases bs <;> simp [listOrder?]
  | cons a as ih =>
    cases bs with
    | nil => simp [listOrder?]
    | cons b bs =>
      rw [listOrder?, List.compare_cons_cons]
      split
      · rename_i heq
        simp [heq, ih]
      · rename_i hne
        have hcompare : compare a b ≠ .eq := by simpa using hne
        rw [order?_eq]
        cases h : compare a b <;> simp_all

end Identifier

/-! ## Keys -/

instance : Std.TransCmp compareKeys := by
  unfold compareKeys
  infer_instance

instance : Std.LawfulEqCmp compareKeys where
  eq_of_compare {a b} h := by
    cases a
    cases b
    simpa [compareKeys, compareLex, compareOn, Ordering.then_eq_eq] using h

namespace Key

/-- Keys compared place by place: the numbers, then whether they are releases, then the identifiers. -/
def order? (k l : Key) : Option Ordering :=
  match compareLex (compareOn Key.major) (compareLex (compareOn Key.minor)
      (compareLex (compareOn Key.patch) (compareOn Key.release))) k l with
  | .eq => Identifier.listOrder? k.identifiers l.identifiers
  | order => some order

/-- **A comparison of keys never comes to a number and a text.** Compared place by place, keys always have an
order, and it is the order of versions. -/
theorem order?_eq (k l : Key) : k.order? l = some (compareKeys k l) := by
  simp only [order?, Identifier.listOrder?_eq, compareKeys, compareLex, compareOn]
  cases compare k.major l.major <;> cases compare k.minor l.minor <;> cases compare k.patch l.patch <;>
    cases compare k.release l.release <;> rfl

end Key

/-! ## Versions -/

/-- Versions are ordered as their keys, so different texts can be equal versions. -/
instance : Std.TransCmp order where
  eq_swap {v w} := by
    rw [order, order]
    exact Std.OrientedCmp.eq_swap
  isLE_trans {u v w} huv hvw := by
    rw [order] at huv hvw ⊢
    exact Std.TransCmp.isLE_trans huv hvw

theorem order_eq_eq_iff {v w : String} : order v w = .eq ↔ (ofText v).key = (ofText w).key := by
  rw [order]
  exact Std.LawfulEqCmp.compare_eq_iff_eq

theorem isAtLeast_trans {u v w : String} (huv : isAtLeast u v = true) (hvw : isAtLeast v w = true) :
    isAtLeast u w = true :=
  Std.TransCmp.isGE_trans huv hvw

end Version

/-! ## Comparisons -/

namespace Comparison

variable {k l : Version.Key}

theorem holds_atLeast : atLeast.holds k l = (above.holds k l || equal.holds k l) := by
  simp only [holds]
  cases Version.compareKeys k l <;> rfl

theorem holds_atMost : atMost.holds k l = (below.holds k l || equal.holds k l) := by
  simp only [holds]
  cases Version.compareKeys k l <;> rfl

/-- Of two versions one is below the other, or they are equal, or it is above. -/
theorem count_holds : [below.holds k l, equal.holds k l, above.holds k l].count true = 1 := by
  simp only [holds]
  cases Version.compareKeys k l <;> rfl

theorem sameMajor_of_sameMinor (h : sameMinor.holds k l = true) : sameMajor.holds k l = true := by
  simp only [holds, Bool.and_eq_true] at h ⊢
  exact ⟨h.1.1, h.2⟩

theorem atLeast_of_sameMajor (h : sameMajor.holds k l = true) : atLeast.holds k l = true := by
  simp only [holds, Bool.and_eq_true] at h ⊢
  exact h.2

end Comparison

end TemplateRules
