import Mathlib.Order.Bounds.Basic
import TemplateRules.Proofs.ReplacementText

/-!
# Groups that are referred to by number

Digits behind a dollar or a backslash refer to the group of the longest of their prefixes that is the number of
a group, and the digits behind the prefix are ordinary characters. The search for the prefix goes from the longest
one down. Since the number of a prefix never exceeds that of a longer one, it fails exactly if the first digit
alone exceeds the number of groups. In brackets all digits have to be the number.

## Main definitions

* `Pattern.number`: the number that digits write
* `Pattern.groupLengths`: the lengths of the prefixes that are numbers of groups
* `Pattern.bareReferences`, `Pattern.bracketedReferences`: the ways to refer to a group by digits

## Main results

* `Pattern.longestGroup?_cases`: the search finds the longest prefix that is the number of a group
* `Pattern.groupOfDigits_cases`: the group that digits refer to, and when there is none
* `Pattern.compileReplacement_number`: references by digits, in all their notations
* `Pattern.compileReplacement_of_within`: a bound on the digits of numbers counts only for those that exceed it
-/

namespace TemplateRules.Pattern

open Text

/-! ## Numbers and their prefixes -/

/-- The number that digits write in base ten. -/
def number (ds : List Char) : Nat := Nat.ofDigitChars 10 ds 0

/-- The lengths of the nonempty prefixes of digits that are the number of a group. -/
def groupLengths (groups : Nat) (ds : List Char) : Set Nat :=
  {n | 0 < n ∧ n ≤ ds.length ∧ number (ds.take n) ≤ groups}

/-- References to a group by digits without brackets. -/
def bareReferences (ds : List Char) : List String := [String.ofList ('$' :: ds), String.ofList ('\\' :: ds)]

/-- References to a group by digits in brackets. -/
def bracketedReferences (ds : List Char) : List String :=
  [String.ofList ('$' :: '\x7b' :: (ds ++ ['\x7d'])), String.ofList ('\\' :: 'g' :: '<' :: (ds ++ ['>']))]

theorem le_ofDigitChars (ds : List Char) (n : Nat) : n ≤ Nat.ofDigitChars 10 ds n := by
  induction ds generalizing n with
  | nil => exact le_rfl
  | cons d ds ih =>
    rw [Nat.ofDigitChars_cons]
    exact le_trans (by omega) (ih _)

/-- More digits write no smaller number. -/
theorem number_take_le (ds : List Char) {m n : Nat} (h : m ≤ n) : number (ds.take m) ≤ number (ds.take n) := by
  obtain ⟨rest, hrest⟩ : ds.take m <+: ds.take n := List.take_prefix_take_left h
  rw [← hrest, number, number, Nat.ofDigitChars_append]
  exact le_ofDigitChars rest _

section Digits

variable (groups : Nat) (names : List (String × Nat)) {ds : List Char}

/-- The search from the longest prefix down finds the longest that is the number of a group. -/
theorem longestGroup?_cases (hdigits : ∀ c ∈ ds, c.isDigit = true) {length : Nat} (hlength : length ≤ ds.length) :
    (∃ n, IsGreatest {n | 0 < n ∧ n ≤ length ∧ number (ds.take n) ≤ groups} n ∧
      longestGroup? groups ds length = some (number (ds.take n), ds.drop n)) ∨
    ((∀ n, 0 < n → n ≤ length → groups < number (ds.take n)) ∧ longestGroup? groups ds length = none) := by
  induction length with
  | zero => exact .inr ⟨fun n hpos hle => by omega, rfl⟩
  | succ length ih =>
    have hnumber : decimalNumber (ds.take (length + 1)) = number (ds.take (length + 1)) :=
      decimalNumber_eq_ofDigitChars fun c hc => hdigits c (List.mem_of_mem_take hc)
    simp only [longestGroup?, hnumber]
    by_cases hfits : number (ds.take (length + 1)) ≤ groups
    · rw [if_pos hfits]
      exact .inl ⟨length + 1, ⟨⟨by omega, le_rfl, hfits⟩, fun m hm => hm.2.1⟩, rfl⟩
    · rw [if_neg hfits]
      rcases ih (by omega) with ⟨n, ⟨⟨hpos, hle, hn⟩, hmax⟩, hfound⟩ | ⟨hnone, hfound⟩
      · refine .inl ⟨n, ⟨⟨hpos, by omega, hn⟩, fun m hm => ?_⟩, hfound⟩
        have hne : m ≠ length + 1 := by
          rintro rfl
          exact hfits hm.2.2
        exact hmax ⟨hm.1, by have := hm.2.1; omega, hm.2.2⟩
      · refine .inr ⟨fun m hpos hle => ?_, hfound⟩
        rcases Nat.lt_or_ge length m with hlt | hge
        · obtain rfl : m = length + 1 := by omega
          exact Nat.lt_of_not_le hfits
        · exact hnone m hpos hge

/-- Digits refer to the group of their longest prefix that is the number of a group. There is none if the first
digit exceeds the number of groups. -/
theorem groupOfDigits_cases (hne : ds ≠ []) (hdigits : ∀ c ∈ ds, c.isDigit = true) :
    (number (ds.take 1) ≤ groups ∧ ∃ n, IsGreatest (groupLengths groups ds) n ∧
      groupOfDigits none groups ds = .ok (number (ds.take n), ds.drop n)) ∨
    (groups < number (ds.take 1) ∧ ∃ digit, groupOfDigits none groups ds = .error (.noSuchGroup digit)) := by
  have hpos : 0 < ds.length := List.length_pos_iff.mpr hne
  have hall : ds.all isDecimal = true :=
    List.all_eq_true.mpr fun c hc => isDecimal_of_isPlainDigit (hdigits c hc)
  simp only [groupOfDigits, excess?, Option.bind_none, hall, Bool.not_true, Bool.false_eq_true, if_false]
  rcases longestGroup?_cases groups hdigits le_rfl with ⟨n, hn, hfound⟩ | ⟨hnone, hfound⟩
  · refine .inl ⟨(number_take_le ds hn.1.1).trans hn.1.2.2, n, hn, ?_⟩
    rw [hfound]
  · refine .inr ⟨hnone 1 Nat.one_pos hpos, ds.head?.getD '0', ?_⟩
    rw [hfound]

/-- A name of digits refers to the group whose number they are, all of them. -/
theorem groupOfName_cases (hne : ds ≠ []) (hdigits : ∀ c ∈ ds, c.isDigit = true) :
    (number ds ≤ groups ∧ groupOfName none groups names ds = .ok (number ds)) ∨
    (groups < number ds ∧
      ∃ fault, groupOfName none groups names ds = .error fault ∧ ∀ d, fault ≠ .defect d) := by
  have hname : isAllDigits ds = true := by
    have hall : ∀ c ∈ ds, isDigit c = true := fun c hc => by
      rw [isDigit, isDecimal_of_isPlainDigit (hdigits c hc), Bool.true_or]
    simp only [isAllDigits, Bool.and_eq_true, Bool.not_eq_true', List.isEmpty_eq_false_iff, List.all_eq_true]
    exact ⟨hne, hall⟩
  have hwhole : ds.take ds.length = ds := List.take_length
  rw [groupOfName, if_pos hname]
  rcases groupOfDigits_cases groups hne hdigits with ⟨-, n, hn, hgroup⟩ | ⟨hlt, digit, hgroup⟩
  · obtain ⟨⟨hpos, hle, hfits⟩, hmax⟩ := hn
    rw [hgroup]
    rcases Nat.lt_or_ge n ds.length with hshort | hlong
    · have hexceeds : groups < number ds := by
        by_contra hle'
        exact Nat.not_le_of_lt hshort
          (hmax ⟨List.length_pos_iff.mpr hne, le_rfl, by rw [hwhole]; exact Nat.le_of_not_lt hle'⟩)
      have hrest : (ds.drop n).isEmpty = false := by simpa using hshort
      refine .inr ⟨hexceeds, .leftover (String.ofList ds), ?_, by simp⟩
      simp [hrest]
    · obtain rfl : n = ds.length := Nat.le_antisymm hle hlong
      rw [hwhole] at hfits ⊢
      exact .inl ⟨hfits, by simp⟩
  · have hfirst : number (ds.take 1) ≤ number (ds.take ds.length) :=
      number_take_le ds (List.length_pos_iff.mpr hne)
    rw [hwhole] at hfirst
    rw [hgroup]
    exact .inr ⟨hlt.trans_le hfirst, .noSuchGroup digit, rfl, by simp⟩

end Digits

/-! ## References by digits -/

section References

variable {p : Pattern} {ds : List Char}

/-- A replacement text that is one token has the pieces of the token. -/
theorem replacementPieces_of_firstMark {most : Option Nat} {groups : Nat} {names : List (String × Nat)}
    {mark : Mark} {c : Char} {cs : List Char} (h : firstMark c cs = (mark, cs.length + 1)) :
    replacementPieces most groups names (c :: cs) = mark.pieces most groups names := by
  rw [replacementPieces_cons, h, Nat.add_sub_cancel, List.drop_length]
  cases mark.pieces most groups names with
  | error e => rfl
  | ok front => exact congrArg Except.ok (List.append_nil front)

theorem replacementPieces_bareReference (hne : ds ≠ []) (hdigits : ∀ c ∈ ds, c.isDigit = true) {r : String}
    (hr : r ∈ bareReferences ds) : replacementPieces none p.groups p.names r.toList =
      (groupOfDigits none p.groups ds).map fun (index, rest) => [.group index, .chars rest] := by
  obtain ⟨d, rest, rfl⟩ := List.exists_cons_of_ne_nil hne
  have hd : isDecimal d = true := isDecimal_of_isPlainDigit (hdigits d List.mem_cons_self)
  have htake : (d :: rest).takeWhile isDecimal = d :: rest :=
    List.takeWhile_eq_self_iff.mpr fun c hc => isDecimal_of_isPlainDigit (hdigits c hc)
  simp only [bareReferences, List.mem_cons, List.not_mem_nil, or_false] at hr
  rcases hr with rfl | rfl
  · have hmark := firstMark_dollarDigits hd rest
    rw [htake] at hmark
    rw [String.toList_ofList, replacementPieces_of_firstMark hmark, Mark.pieces]
  · have hmark := firstMark_backslashDigits hd rest
    rw [htake] at hmark
    rw [String.toList_ofList, replacementPieces_of_firstMark hmark, Mark.pieces]

theorem replacementPieces_bracketedReference (hne : ds ≠ []) (hdigits : ∀ c ∈ ds, c.isDigit = true) {r : String}
    (hr : r ∈ bracketedReferences ds) : replacementPieces none p.groups p.names r.toList =
      (groupOfName none p.groups p.names ds).map fun index => [.group index] := by
  have hclosed : ∀ close, isWord close = false → closedName? close (ds ++ [close]) = some ds := fun close hclose =>
    (closedName?_eq_some_iff hclose).mpr ⟨hne, fun c hc => isWord_of_isPlainDigit (hdigits c hc), List.prefix_rfl⟩
  simp only [bracketedReferences, List.mem_cons, List.not_mem_nil, or_false] at hr
  rcases hr with rfl | rfl
  · have hmark := firstMark_dollarName (hclosed '\x7d' (by decide))
    rw [String.toList_ofList, replacementPieces_of_firstMark (by simpa using hmark), Mark.pieces]
  · have hmark := firstMark_backslashName (hclosed '>' (by decide))
    rw [String.toList_ofList, replacementPieces_of_firstMark (by simpa using hmark), Mark.pieces]

theorem compileReplacement_eq_pattern_iff {replacement : String} :
    (∃ e, Edit.compileReplacement p replacement = .error (.pattern e)) ↔
      ∃ fault, replacementPieces none p.groups p.names replacement.toList = .error fault ∧
        ∀ d, fault ≠ .defect d := by
  rw [Edit.compileReplacement]
  split <;> simp_all

/-- **References by digits.** Behind a dollar or a backslash digits refer to the group of their longest prefix that
is the number of a group, with the other digits behind it as they are; they are refused exactly if the first digit
exceeds the number of groups. In brackets they refer to the group whose number they are, and are refused exactly
if they exceed the number of groups. -/
theorem compileReplacement_number (p : Pattern) {ds : List Char} (hne : ds ≠ [])
    (hdigits : ∀ c ∈ ds, c.isDigit = true) :
    (∀ r ∈ bareReferences ds,
      (number (ds.take 1) ≤ p.groups → ∃ n, IsGreatest (groupLengths p.groups ds) n ∧
        Edit.compileReplacement p r = .ok [.group (number (ds.take n)), .chars (ds.drop n)]) ∧
      ((∃ e, Edit.compileReplacement p r = .error (.pattern e)) ↔ p.groups < number (ds.take 1))) ∧
    ∀ r ∈ bracketedReferences ds,
      (Edit.compileReplacement p r = .ok [.group (number ds)] ↔ number ds ≤ p.groups) ∧
      ((∃ e, Edit.compileReplacement p r = .error (.pattern e)) ↔ p.groups < number ds) := by
  simp only [compileReplacement_eq_ok_iff, compileReplacement_eq_pattern_iff]
  refine ⟨fun r hr => ?_, fun r hr => ?_⟩
  · rw [replacementPieces_bareReference hne hdigits hr]
    rcases groupOfDigits_cases p.groups hne hdigits with ⟨hle, n, hn, hgroup⟩ | ⟨hlt, digit, hgroup⟩
    · simp only [hgroup, ok_map]
      exact ⟨fun _ => ⟨n, hn, rfl⟩, by simp [Nat.not_lt.mpr hle]⟩
    · simp only [hgroup, error_map]
      exact ⟨fun hle => absurd hle (Nat.not_le.mpr hlt), by simp [hlt]⟩
  · rw [replacementPieces_bracketedReference hne hdigits hr]
    rcases groupOfName_cases p.groups p.names hne hdigits with
      ⟨hle, hgroup⟩ | ⟨hlt, fault, hgroup, hfault⟩
    · simp [hgroup, hle, Nat.not_lt.mpr hle]
    · simp [hgroup, hlt, Nat.not_le.mpr hlt, hfault]

/-- A zero in front is part of the number: of `012` the group 1 is meant where there are two groups. -/
theorem compileReplacement_number_zeroOneTwo : ∃ p, compile "(a)(b)" = .ok p ∧ p.groups = 2 ∧
    ['0', '1', '2'] ≠ [] ∧ (∀ c ∈ ['0', '1', '2'], c.isDigit = true) ∧
    (∀ r ∈ bareReferences ['0', '1', '2'], Edit.compileReplacement p r = .ok [.group 1, .chars ['2']]) ∧
    ∀ r ∈ bracketedReferences ['0', '1', '2'], ∃ e, Edit.compileReplacement p r = .error (.pattern e) := by
  have hne : ['0', '1', '2'] ≠ [] := by decide
  have hdigits : ∀ c ∈ ['0', '1', '2'], c.isDigit = true := by simp
  have hgreatest : IsGreatest (groupLengths 2 ['0', '1', '2']) 2 := by
    refine ⟨⟨by decide, by decide, by decide⟩, fun n ⟨_, hlength, hfits⟩ => ?_⟩
    by_contra hlt
    obtain rfl : n = 3 := Nat.le_antisymm hlength (Nat.lt_of_not_le hlt)
    exact absurd hfits (by decide)
  obtain ⟨p, hp, hgroups⟩ : ∃ p, compile "(a)(b)" = .ok p ∧ p.groups = 2 := ⟨_, rfl, rfl⟩
  have hread := compileReplacement_number p hne hdigits
  rw [hgroups] at hread
  refine ⟨p, hp, hgroups, hne, hdigits, fun r hr => ?_, fun r hr => ?_⟩
  · obtain ⟨n, hn, hcompile⟩ := (hread.1 r hr).1 (by decide)
    obtain rfl := hgreatest.unique hn
    exact hcompile
  · exact (hread.2 r hr).2.mpr (by decide)

end References

/-! ## Bounds on digits -/

section Bounds

variable {most : Option Nat} {groups : Nat} {names : List (String × Nat)}

theorem groupOfDigits_of_within {ds : List Char} (h : excess? most ds = none) :
    groupOfDigits most groups ds = groupOfDigits none groups ds := by
  have hnone : excess? none ds = none := rfl
  simp only [groupOfDigits, h, hnone]

theorem pieces_of_within {mark : Mark} (h : ∀ ds, mark.numeral? = some ds → excess? most ds = none) :
    mark.pieces most groups names = mark.pieces none groups names := by
  cases mark with
  | char c => rfl
  | escaped c => rfl
  | digits ds => rw [Mark.pieces, Mark.pieces, groupOfDigits_of_within (h ds rfl)]
  | name name =>
    rw [Mark.pieces, Mark.pieces, groupOfName, groupOfName]
    cases hdigits : isAllDigits name with
    | false => rfl
    | true => rw [groupOfDigits_of_within (h name (by rw [Mark.numeral?, if_pos hdigits]))]

theorem mapM_pieces_of_within {tokens : List Mark}
    (h : ∀ mark ∈ tokens, ∀ ds, mark.numeral? = some ds → excess? most ds = none) :
    tokens.mapM (Mark.pieces most groups names) = tokens.mapM (Mark.pieces none groups names) := by
  induction tokens with
  | nil => rfl
  | cons mark tokens ih =>
    rw [List.forall_mem_cons] at h
    rw [List.mapM_cons, List.mapM_cons, pieces_of_within h.1, ih h.2]

/-- **A bound on the digits of numbers makes no difference to the replacements that keep to it.** -/
theorem compileReplacement_of_within {p : Pattern} {replacement : String}
    (h : ∀ mark ∈ marks replacement.toList, ∀ ds, mark.numeral? = some ds → excess? most ds = none) :
    Edit.compileReplacement p replacement most = Edit.compileReplacement p replacement := by
  rw [Edit.compileReplacement, Edit.compileReplacement, replacementPieces, replacementPieces,
    mapM_pieces_of_within h]

end Bounds

end TemplateRules.Pattern
