import TemplateRules.Proofs.VersionOrder
import TemplateRules.Proofs.VersionSpelling

/-!
# Constraints and the order of versions

Each comparison that a constraint can ask for is a question to the one order of versions. So the signs in
front of a target answer together: one of below, equal and above holds, and the others follow from these.

## Main results

* `satisfies?_sign_append`: what a sign in front of a target asks of a known version
* `satisfies?_in_one_order`: the signs, the bounds and the comparison of versions are about one order
-/

namespace TemplateRules

open Version (isAtLeast isAbove)

section

variable {version target : String}

/-- A known version satisfies a sign and a target exactly if the comparison holds between them. -/
theorem satisfies?_sign_append (hknown : Version.isKnown (some version) = true)
    (htarget : Constraint.isTarget target.toList = true) (comparison : Comparison) :
    satisfies? (some version) (comparison.sign ++ target) =
      some (comparison.holds (Version.ofText version).key (Version.ofText target).key) := by
  rw [satisfies?, Constraint.ofText?_sign_append htarget, Option.map_some, Constraint.admits, hknown,
    Bool.true_and]

/-- A target alone asks for equality. -/
theorem satisfies?_of_isTarget (htarget : Constraint.isTarget target.toList = true) :
    satisfies? (some version) target = satisfies? (some version) (Comparison.equal.sign ++ target) := by
  rw [satisfies?, satisfies?, Constraint.ofText?_sign_append htarget, Constraint.ofText?_of_isTarget htarget]

end

/-- **The comparisons of constraints are about one order.** Behind every sign a target has an answer for a
known version. Of below, equal and above exactly one is true; the other comparisons follow from these; and
the bounds of libraries are two of them. Versions are ordered linearly, as keys that are compared place by
place, which never comes to a number and a text. -/
theorem satisfies?_in_one_order {version target other : String}
    (hknown : Version.isKnown (some version) = true)
    (htarget : Constraint.isTarget target.toList = true) (hother : Constraint.isTarget other.toList = true) :
    (∃ answer : Comparison → Bool,
      (∀ comparison, satisfies? (some version) (comparison.sign ++ target) = some (answer comparison)) ∧
      satisfies? (some version) target = some (answer .equal) ∧
      [answer .below, answer .equal, answer .above].count true = 1 ∧
      answer .atLeast = (answer .above || answer .equal) ∧
      answer .atMost = (answer .below || answer .equal) ∧
      (answer .sameMinor = true → answer .sameMajor = true) ∧
      (answer .sameMajor = true → answer .atLeast = true) ∧
      answer .atLeast = isAtLeast version target ∧ answer .above = isAbove version target) ∧
    (∀ v w, Version.order w v = (Version.order v w).swap) ∧
    (∀ u v w, isAtLeast u v = true → isAtLeast v w = true → isAtLeast u w = true) ∧
    (satisfies? (some version) (Comparison.atLeast.sign ++ target) = some true →
      isAtLeast target other = true →
      satisfies? (some version) (Comparison.atLeast.sign ++ other) = some true) ∧
    ∀ v w, (Version.ofText v).key.order? (Version.ofText w).key = some (Version.order v w) := by
  have hsign := satisfies?_sign_append hknown htarget
  refine ⟨⟨fun comparison => comparison.holds (Version.ofText version).key (Version.ofText target).key, hsign,
      (satisfies?_of_isTarget htarget).trans (hsign .equal), Comparison.count_holds, Comparison.holds_atLeast,
      Comparison.holds_atMost, Comparison.sameMajor_of_sameMinor, Comparison.atLeast_of_sameMajor, rfl, rfl⟩,
    fun v w => Std.OrientedCmp.eq_swap, fun u v w => Version.isAtLeast_trans, fun hat hbound => ?_,
    fun v w => Version.Key.order?_eq _ _⟩
  rw [hsign, Option.some.injEq] at hat
  rw [satisfies?_sign_append hknown hother, Option.some.injEq]
  exact Version.isAtLeast_trans hat hbound

theorem satisfies?_snapshot_in_one_order :
    Version.isKnown (some "7.14.0-SNAPSHOT") = true ∧ Constraint.isTarget "v7.1".toList = true ∧
      Constraint.isTarget "7.0.0-rc.1+b2".toList = true ∧
      satisfies? (some "7.14.0-SNAPSHOT") (Comparison.atLeast.sign ++ "v7.1") = some true ∧
      isAtLeast "v7.1" "7.0.0-rc.1+b2" = true ∧
      satisfies? (some "7.14.0-SNAPSHOT") (Comparison.atLeast.sign ++ "7.0.0-rc.1+b2") = some true := by
  have hknown : Version.isKnown (some "7.14.0-SNAPSHOT") = true := by decide +kernel
  have htarget : Constraint.isTarget "v7.1".toList = true := by decide +kernel
  have hother : Constraint.isTarget "7.0.0-rc.1+b2".toList = true := by decide +kernel
  have hat : satisfies? (some "7.14.0-SNAPSHOT") (Comparison.atLeast.sign ++ "v7.1") = some true := by
    decide +kernel
  have hbound : isAtLeast "v7.1" "7.0.0-rc.1+b2" = true := by decide +kernel
  obtain ⟨-, -, -, hthrough, -⟩ := satisfies?_in_one_order hknown htarget hother
  exact ⟨hknown, htarget, hother, hat, hbound, hthrough hat hbound⟩

end TemplateRules
