import TemplateRules.Library
import TemplateRules.Proofs.VersionOrder

/-!
# Intervals of versions

A constraint admits an interval of versions, and so does a library: whatever lies between two admitted
versions is admitted. The bounds of a library are comparisons as constraints make them. A comparison asks for
versions on one side of a target, and some ask for the first components of the target besides; between two
versions that share these all versions have them.

## Main definitions

* `Version.IsInterval`: keys of which nothing between two is missing
* `Manifest.AdmitsTool`, `Manifest.AdmitsGenerator`: what a manifest asks of a version

## Main results

* `Comparison.isInterval_holds`: the keys that stand in a comparison with a target are an interval
* `satisfies?_interval`: the known versions that satisfy a constraint are an interval
* `Manifest.incompatibility?_eq_none_iff`: what a manifest asks of a run
* `Library.incompatibility?_interval`: the versions of the generator that a library admits are an interval,
  and with a version of the tool all later ones are admitted
-/

universe u

namespace TemplateRules

/-! ## Intervals of keys -/

namespace Version

/-- Keys of which nothing between two is missing. -/
def IsInterval (p : Key → Prop) : Prop :=
  ∀ ⦃k l m : Key⦄, (compareKeys k l).isLE = true → (compareKeys l m).isLE = true → p k → p m → p l

section

variable {p q : Key → Prop}

/-- What all keys above one of its own belong to is an interval. -/
theorem isInterval_of_upward (h : ∀ ⦃k l⦄, (compareKeys k l).isLE = true → p k → p l) : IsInterval p :=
  fun _ _ _ hkl _ hk _ => h hkl hk

/-- What all keys below one of its own belong to is an interval. -/
theorem isInterval_of_downward (h : ∀ ⦃k l⦄, (compareKeys k l).isLE = true → p l → p k) : IsInterval p :=
  fun _ _ _ _ hlm _ hm => h hlm hm

theorem IsInterval.forall {ι : Sort u} {r : ι → Key → Prop} (h : ∀ i, IsInterval (r i)) :
    IsInterval fun k => ∀ i, r i k :=
  fun _ _ _ hkl hlm hk hm i => h i hkl hlm (hk i) (hm i)

theorem IsInterval.and (hp : IsInterval p) (hq : IsInterval q) : IsInterval fun k => p k ∧ q k :=
  fun _ _ _ hkl hlm hk hm => ⟨hp hkl hlm hk.1 hm.1, hq hkl hlm hk.2 hm.2⟩

end

section

variable {k l : Key}

theorem major_le_of_isLE (h : (compareKeys k l).isLE = true) : k.major ≤ l.major := by
  simp only [compareKeys, compareLex, compareOn, Ordering.isLE_then_iff_and, Nat.isLE_compare] at h
  exact h.1

/-- Where the first components are equal the second ones are in order. -/
theorem minor_le_of_isLE (h : (compareKeys k l).isLE = true) (hmajor : k.major = l.major) :
    k.minor ≤ l.minor := by
  simp only [compareKeys, compareLex, compareOn, Ordering.isLE_then_iff_and, Nat.isLE_compare,
    Nat.compare_eq_lt] at h
  rcases h with ⟨-, hbelow | ⟨hminor, -⟩⟩
  · omega
  · exact hminor

end

theorem isInterval_major (n : Nat) : IsInterval fun k => k.major = n := by
  intro k l m hkl hlm hk hm
  have hbelow := major_le_of_isLE hkl
  have habove := major_le_of_isLE hlm
  omega

/-- The second component is looked at only between keys that share the first one. -/
theorem isInterval_majorMinor (n o : Nat) : IsInterval fun k => k.major = n ∧ k.minor = o := by
  rintro k l m hkl hlm ⟨hkmajor, hkminor⟩ ⟨hmmajor, hmminor⟩
  have hlmajor : l.major = n := isInterval_major n hkl hlm hkmajor hmmajor
  have hbelow := minor_le_of_isLE hkl (hkmajor.trans hlmajor.symm)
  have habove := minor_le_of_isLE hlm (hlmajor.trans hmmajor.symm)
  exact ⟨hlmajor, by omega⟩

end Version

/-! ## Comparisons -/

namespace Comparison

open Version (compareKeys IsInterval)

variable {k l target : Version.Key}

theorem holds_atLeast_of_isLE (hkl : (compareKeys k l).isLE = true) (hk : atLeast.holds k target = true) :
    atLeast.holds l target = true :=
  Std.TransCmp.isGE_trans (Std.OrientedCmp.isGE_iff_isLE.mpr hkl) hk

theorem holds_above_of_isLE (hkl : (compareKeys k l).isLE = true) (hk : above.holds k target = true) :
    above.holds l target = true := by
  simp only [holds, Ordering.isGT_iff_eq_gt] at hk ⊢
  exact Std.TransCmp.gt_of_isGE_of_gt (Std.OrientedCmp.isGE_iff_isLE.mpr hkl) hk

theorem holds_atMost_of_isLE (hkl : (compareKeys k l).isLE = true) (hl : atMost.holds l target = true) :
    atMost.holds k target = true :=
  Std.TransCmp.isLE_trans hkl hl

theorem holds_below_of_isLE (hkl : (compareKeys k l).isLE = true) (hl : below.holds l target = true) :
    below.holds k target = true := by
  simp only [holds, Ordering.isLT_iff_eq_lt] at hl ⊢
  exact Std.TransCmp.lt_of_isLE_of_lt hkl hl

/-- What is equal to a target is neither below nor above it. -/
theorem holds_equal_iff :
    equal.holds k target = true ↔ atLeast.holds k target = true ∧ atMost.holds k target = true := by
  simp only [holds]
  cases compareKeys k target <;> decide

/-- The keys that stand in a comparison with a target are an interval. -/
theorem isInterval_holds (c : Comparison) (target : Version.Key) :
    IsInterval fun k => c.holds k target = true := by
  have hatLeast : IsInterval fun k => atLeast.holds k target = true :=
    Version.isInterval_of_upward fun _ _ => holds_atLeast_of_isLE
  have hatMost : IsInterval fun k => atMost.holds k target = true :=
    Version.isInterval_of_downward fun _ _ => holds_atMost_of_isLE
  cases c with
  | atLeast => exact hatLeast
  | atMost => exact hatMost
  | above => exact Version.isInterval_of_upward fun _ _ => holds_above_of_isLE
  | below => exact Version.isInterval_of_downward fun _ _ => holds_below_of_isLE
  | equal =>
    simp only [holds_equal_iff]
    exact hatLeast.and hatMost
  | sameMajor =>
    simp only [holds, Bool.and_eq_true, beq_iff_eq]
    exact (Version.isInterval_major target.major).and hatLeast
  | sameMinor =>
    simp only [holds, Bool.and_eq_true, beq_iff_eq]
    exact (Version.isInterval_majorMinor target.major target.minor).and hatLeast

end Comparison

/-! ## Constraints -/

/-- What a constraint says of a known version. -/
theorem Constraint.admits_of_isKnown (c : Constraint) {v : String}
    (hknown : Version.isKnown (some v) = true) :
    c.admits (some v) = c.comparison.holds (Version.ofText v).key (Version.ofText c.target).key := by
  rw [admits, hknown, Bool.true_and]

/-- **A constraint describes an interval of versions.** Whatever its comparison is, a known version between
two that satisfy a constraint satisfies it too. Known versions that are equal have the same answer from every
constraint. -/
theorem satisfies?_interval (written : String) :
    (∀ a b c : String, Version.isKnown (some a) = true → Version.isKnown (some b) = true →
      Version.isKnown (some c) = true → (Version.order a b).isLE = true → (Version.order b c).isLE = true →
        satisfies? (some a) written = some true → satisfies? (some c) written = some true →
          satisfies? (some b) written = some true) ∧
    ∀ v w : String, Version.isKnown (some v) = true → Version.isKnown (some w) = true →
      Version.order v w = .eq → satisfies? (some v) written = satisfies? (some w) written := by
  cases hread : Constraint.ofText? written with
  | none => simp [satisfies?, hread]
  | some constraint =>
    simp only [satisfies?, hread, Option.map_some, Option.some.injEq]
    constructor
    · intro a b c ha hb hc hab hbc hfirst hlast
      rw [constraint.admits_of_isKnown ha] at hfirst
      rw [constraint.admits_of_isKnown hc] at hlast
      rw [constraint.admits_of_isKnown hb]
      exact constraint.comparison.isInterval_holds _ hab hbc hfirst hlast
    · intro v w hv hw heq
      rw [constraint.admits_of_isKnown hv, constraint.admits_of_isKnown hw, Version.order_eq_eq_iff.mp heq]

theorem satisfies?_interval_sameMinor :
    (Version.order "7.1.0-rc2" "7.1").isLE = true ∧ (Version.order "7.1" "v7.1.9").isLE = true ∧
      satisfies? (some "7.1.0-rc2") "~>7.1.0-beta" = some true ∧
      satisfies? (some "v7.1.9") "~>7.1.0-beta" = some true ∧
      satisfies? (some "7.1") "~>7.1.0-beta" = some true ∧
      Version.order "7.1" "7.1.0+b2" = .eq ∧
      satisfies? (some "7.1") "~>7.1.0-beta" = satisfies? (some "7.1.0+b2") "~>7.1.0-beta" := by
  have hknown : ∀ v ∈ ["7.1.0-rc2", "7.1", "v7.1.9", "7.1.0+b2"], Version.isKnown (some v) = true := by
    decide +kernel
  simp only [List.forall_mem_cons] at hknown
  obtain ⟨hfirstKnown, hmiddle, hlastKnown, hbuild, -⟩ := hknown
  have hbelow : (Version.order "7.1.0-rc2" "7.1").isLE = true := by decide +kernel
  have habove : (Version.order "7.1" "v7.1.9").isLE = true := by decide +kernel
  have hequal : Version.order "7.1" "7.1.0+b2" = .eq := by decide +kernel
  have hfirst : satisfies? (some "7.1.0-rc2") "~>7.1.0-beta" = some true := by decide +kernel
  have hlast : satisfies? (some "v7.1.9") "~>7.1.0-beta" = some true := by decide +kernel
  obtain ⟨hbetween, hsame⟩ := satisfies?_interval "~>7.1.0-beta"
  exact ⟨hbelow, habove, hfirst, hlast,
    hbetween _ _ _ hfirstKnown hmiddle hlastKnown hbelow habove hfirst hlast, hequal,
    hsame _ _ hmiddle hbuild hequal⟩

/-! ## Libraries -/

/-- A version that is not above a bound is at most the bound, as constraints compare. -/
theorem Version.isAbove_eq_false_iff {v w : String} :
    isAbove v w = false ↔ Comparison.atMost.holds (ofText v).key (ofText w).key = true := by
  rw [isAbove, order]
  simp only [Comparison.holds]
  cases compareKeys (ofText v).key (ofText w).key <;> decide

namespace Manifest

/-- What a manifest asks of the version of the tool. -/
def AdmitsTool (m : Manifest) (current : Version.Key) : Prop :=
  ∀ least, bound? m.minToolVersion = some least →
    Comparison.atLeast.holds current (Version.ofText least).key = true

/-- What a manifest asks of the version of the generator. -/
def AdmitsGenerator (m : Manifest) (current : Version.Key) : Prop :=
  (∀ least, bound? m.minGeneratorVersion = some least →
      Comparison.atLeast.holds current (Version.ofText least).key = true) ∧
    ∀ greatest, bound? m.maxGeneratorVersion = some greatest →
      Comparison.atMost.holds current (Version.ofText greatest).key = true

/-- With a version of the tool all later ones are admitted. -/
theorem AdmitsTool.of_isLE {m : Manifest} {k l : Version.Key} (h : m.AdmitsTool k)
    (hkl : (Version.compareKeys k l).isLE = true) : m.AdmitsTool l :=
  fun least hleast => Comparison.holds_atLeast_of_isLE hkl (h least hleast)

/-- The versions of the generator that a manifest admits are an interval. -/
theorem isInterval_admitsGenerator (m : Manifest) : Version.IsInterval m.AdmitsGenerator :=
  .and (.forall fun _ => .forall fun _ => Comparison.isInterval_holds .atLeast _)
    (.forall fun _ => .forall fun _ => Comparison.isInterval_holds .atMost _)

variable {m : Manifest} {generator : String} {version tool : Option String}

theorem known?_eq_some {v current : String} (h : known? (some v) = some current) : v = current := by
  rw [known?] at h
  split at h
  · exact Option.some.inj h
  · simp at h

theorem toolProblem?_eq_none_iff : m.toolProblem? tool = none ↔
    ∀ current, known? tool = some current → m.AdmitsTool (Version.ofText current).key := by
  simp only [toolProblem?, Option.bind_eq_bind, Option.bind_eq_none_iff, ite_eq_left_iff, reduceCtorEq,
    imp_false, Bool.not_eq_true, Bool.not_eq_false]
  exact ⟨fun h current hcurrent least hleast => h least hleast current hcurrent,
    fun h least hleast current hcurrent => h current hcurrent least hleast⟩

theorem versionProblem?_eq_none_iff : m.versionProblem? version = none ↔
    ∀ current, known? version = some current → m.AdmitsGenerator (Version.ofText current).key := by
  simp only [versionProblem?, ageProblem?, noveltyProblem?, Option.bind_eq_bind, Option.bind_eq_none_iff,
    Option.or_eq_none_iff, ite_eq_left_iff, ite_eq_right_iff, reduceCtorEq, imp_false, Bool.not_eq_true,
    Bool.not_eq_false, Version.isAbove_eq_false_iff]
  rfl

/-- A manifest admits a run if it supports the generator and admits the versions that are known. -/
theorem incompatibility?_eq_none_iff :
    m.incompatibility? generator version tool = none ↔ m.supportsGenerator generator = true ∧
      (∀ current, known? tool = some current → m.AdmitsTool (Version.ofText current).key) ∧
      ∀ current, known? version = some current → m.AdmitsGenerator (Version.ofText current).key := by
  rw [incompatibility?, Option.or_eq_none_iff, Option.or_eq_none_iff, generatorProblem?,
    toolProblem?_eq_none_iff, versionProblem?_eq_none_iff, and_assoc]
  simp

end Manifest

/-- A library can be used in a run if it has no manifest or its manifest admits the run. -/
theorem Library.incompatibility?_eq_none_iff {l : Library} {generator : String}
    {version tool : Option String} : (l.incompatibility? generator version tool).value = none ↔
      ∀ m, l.manifest = some m → m.incompatibility? generator version tool = none := by
  rw [incompatibility?]
  cases l.manifest with
  | none => simp
  | some m =>
    simp only [Option.some.injEq, forall_eq']
    split <;> simp

/-- **The versions that a library admits are an interval.** Between two known versions of the generator that
a library can be used with it can be used with all versions, and with a known version of the tool it can be
used with all later ones. -/
theorem Library.incompatibility?_interval (l : Library) (generator : String) :
    (∀ (tool : Option String) (a b c : String), Version.isKnown (some a) = true →
      Version.isKnown (some b) = true → Version.isKnown (some c) = true →
      (Version.order a b).isLE = true → (Version.order b c).isLE = true →
        (l.incompatibility? generator (some a) tool).value = none →
        (l.incompatibility? generator (some c) tool).value = none →
          (l.incompatibility? generator (some b) tool).value = none) ∧
    ∀ (version : Option String) (s t : String), Version.isKnown (some s) = true →
      Version.isKnown (some t) = true → Version.isAtLeast t s = true →
        (l.incompatibility? generator version (some s)).value = none →
          (l.incompatibility? generator version (some t)).value = none := by
  simp only [incompatibility?_eq_none_iff, Manifest.incompatibility?_eq_none_iff]
  constructor
  · intro tool a b c ha _ hc hab hbc hfirst hlast m hm
    obtain ⟨hgenerator, htool, hadmitted⟩ := hfirst m hm
    obtain ⟨-, -, hadmitted'⟩ := hlast m hm
    refine ⟨hgenerator, htool, fun current hcurrent => ?_⟩
    obtain rfl := Manifest.known?_eq_some hcurrent
    exact m.isInterval_admitsGenerator hab hbc (hadmitted a (if_pos ha)) (hadmitted' c (if_pos hc))
  · intro version s t hs _ hst hfirst m hm
    obtain ⟨hgenerator, htool, hadmitted⟩ := hfirst m hm
    refine ⟨hgenerator, fun current hcurrent => ?_, hadmitted⟩
    obtain rfl := Manifest.known?_eq_some hcurrent
    exact (htool s (if_pos hs)).of_isLE (Std.OrientedCmp.isGE_iff_isLE.mp hst)

/-- A library for one series of versions of the generator. -/
def Library.forSeventh : Library :=
  ⟨"seventh", [], [], some { Manifest.empty with
    minToolVersion := some "1.2"
    minGeneratorVersion := some "7.0.0"
    maxGeneratorVersion := some "7.14.0" }⟩

theorem Library.incompatibility?_forSeventh :
    (forSeventh.incompatibility? "spring" (some "7.0.0") (some "1.2.0")).value = none ∧
      (forSeventh.incompatibility? "spring" (some "7.14.0+b1") (some "1.2.0")).value = none ∧
      (Version.order "7.0.0" "v7.2-rc").isLE = true ∧ (Version.order "v7.2-rc" "7.14.0+b1").isLE = true ∧
      (forSeventh.incompatibility? "spring" (some "v7.2-rc") (some "1.2.0")).value = none ∧
      Version.isAtLeast "1.10-beta" "1.2.0" = true ∧
      (forSeventh.incompatibility? "spring" (some "7.0.0") (some "1.10-beta")).value = none := by
  have hknown : ∀ v ∈ ["7.0.0", "v7.2-rc", "7.14.0+b1", "1.2.0", "1.10-beta"],
      Version.isKnown (some v) = true := by
    decide +kernel
  simp only [List.forall_mem_cons] at hknown
  obtain ⟨hfirstKnown, hmiddle, hlastKnown, htool, hlater, -⟩ := hknown
  have hfirst : (forSeventh.incompatibility? "spring" (some "7.0.0") (some "1.2.0")).value = none := by
    decide +kernel
  have hlast : (forSeventh.incompatibility? "spring" (some "7.14.0+b1") (some "1.2.0")).value = none := by
    decide +kernel
  have hbelow : (Version.order "7.0.0" "v7.2-rc").isLE = true := by decide +kernel
  have habove : (Version.order "v7.2-rc" "7.14.0+b1").isLE = true := by decide +kernel
  have hnewer : Version.isAtLeast "1.10-beta" "1.2.0" = true := by decide +kernel
  obtain ⟨hbetween, hupward⟩ := forSeventh.incompatibility?_interval "spring"
  exact ⟨hfirst, hlast, hbelow, habove,
    hbetween _ _ _ _ hfirstKnown hmiddle hlastKnown hbelow habove hfirst hlast, hnewer,
    hupward _ _ _ htool hlater hnewer hfirst⟩

end TemplateRules
