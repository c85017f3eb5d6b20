import TemplateRules.Proofs.Constraints

/-!
# Pre-releases

The loose reader tells the numbers of a version from the identifiers of its tag by their places alone: the
first three components count as numbers, whatever they are. So a tag loses as many identifiers as numbers are
missing, and the version is read as it is meant only if these say nothing. Among the identifiers that are left
those of digits are dropped, so they tell no two versions apart.

## Main definitions

* `Version.names`: the identifiers that are kept for a tag
* `Version.Spelling.filled`, `Version.Spelling.release`, `Version.Spelling.tagged`: a spelling with its missing
  numbers, without its tag, and with a tag of given identifiers
* `Version.IsSilent`: what may stand in the place of a missing number without being heard

## Main results

* `Version.Spelling.order_release_eq_lt_iff`: when a version sorts below its release
* `Version.Spelling.key_filled_and_below_release_iff`: when it is moreover read as if no number were missing
* `Version.key_tagged_eq_of_names`: identifiers of digits tell no versions apart
* `Version.order_numbered`: pre-releases that differ in a number alone are equal
-/

namespace TemplateRules

open Text

namespace Version

/-! ## The parts of a version -/

section Parts

variable {numbers ids : List (List Char)}

/-- The identifiers that are kept, in lower case: all but the empty ones and those of digits. -/
def names (ids : List (List Char)) : List String :=
  (ids.filter fun p => !p.isEmpty && !isAllDigits p).map fun p => String.ofList (lowerChars p)

theorem names_append (front back : List (List Char)) : names (front ++ back) = names front ++ names back := by
  simp [names]

theorem names_cons_of_isAllDigits {p : List Char} (h : isAllDigits p = true) : names (p :: ids) = names ids := by
  simp [names, h]

theorem names_cons_of_name {p : List Char} (hne : p ≠ []) (h : isAllDigits p = false) :
    names (p :: ids) = String.ofList (lowerChars p) :: names ids := by
  simp [names, h, hne]

theorem names_eq_nil_iff : names ids = [] ↔ ∀ p ∈ ids, p = [] ∨ isAllDigits p = true := by
  simp [names, List.filter_eq_nil_iff, or_iff_not_imp_left]

/-- Behind the numbers the identifiers count on, so the first ones stand in the places of missing numbers. -/
theorem numberAt_append (i : Nat) :
    numberAt (numbers ++ ids) i =
      if i < numbers.length then numberAt numbers i else numberAt ids (i - numbers.length) := by
  rw [numberAt, numberAt, numberAt, List.getElem?_append]
  split <;> rfl

theorem numberAt_of_length_le {i : Nat} (h : numbers.length ≤ i) : numberAt numbers i = 0 := by
  simp [numberAt, h]

theorem tagOf_append (h : numbers.length ≤ 3) :
    tagOf (numbers ++ ids) = names (ids.drop (3 - numbers.length)) := by
  rw [tagOf, names, List.drop_append, List.drop_eq_nil_of_le h, List.nil_append]

theorem numberAt_eq_zero (h : ∀ p ∈ ids, leadingNumber p = 0) (i : Nat) : numberAt ids i = 0 := by
  rw [numberAt]
  cases hp : ids[i]? with
  | none => rfl
  | some p => exact h p (List.mem_of_getElem? hp)

theorem forall_numberAt_eq_zero_iff {n : Nat} :
    (∀ i < n, numberAt ids i = 0) ↔ ∀ p ∈ ids.take n, leadingNumber p = 0 := by
  constructor
  · intro h p hp
    obtain ⟨i, hi, rfl⟩ := List.mem_take_iff_getElem.mp hp
    simpa [numberAt, List.getElem?_eq_getElem (show i < ids.length by omega)] using h i (by omega)
  · intro h i hi
    have htake := numberAt_eq_zero h i
    rwa [numberAt, List.getElem?_take_of_lt hi] at htake

theorem forall_lt_three {P : Nat → Prop} : (∀ i < 3, P i) ↔ P 0 ∧ P 1 ∧ P 2 := by
  simp only [Nat.forall_lt_succ_right, Nat.not_lt_zero, false_implies, implies_true, true_and, and_assoc]

end Parts

/-- A version is below a release with no greater numbers exactly if it is a pre-release with the same ones. -/
theorem compareKeys_key_eq_lt_iff {v w : Version} (hmajor : w.major ≤ v.major) (hminor : w.minor ≤ v.minor)
    (hpatch : w.patch ≤ v.patch) (htag : w.tag = []) :
    compareKeys v.key w.key = .lt ↔
      v.major = w.major ∧ v.minor = w.minor ∧ v.patch = w.patch ∧ v.tag ≠ [] := by
  simp only [compareKeys, compareLex, compareOn, key, Ordering.then_eq_lt, compare_lt_iff_lt, compare_eq_iff_eq, htag]
  cases v.tag with
  | nil => simp; omega
  | cons t ts => simp; omega

/-! ## Spellings of a version and of its release -/

namespace Spelling

variable (s : Spelling)

/-- How many numbers are missing. -/
def missing : Nat := 3 - s.numbers.length

/-- The number zero. -/
def zero : Stretch isDecimal := .of ['0'] (by decide) (by decide)

/-- The spelling with zeros for the missing numbers. -/
def filled : Spelling :=
  { s with
    numbers := s.numbers ++ List.replicate s.missing zero
    numbers_ne_nil := List.append_ne_nil_of_left_ne_nil s.numbers_ne_nil _
    length_numbers_le := by
      have := s.length_numbers_le
      simp only [List.length_append, List.length_replicate, missing]
      omega }

/-- The spelling without the tag. -/
def release : Spelling := { s with tag := none }

/-- The number at a position; a missing one counts as zero. -/
def number (i : Nat) : Nat := numberAt (s.numbers.map Stretch.chars) i

theorem numberAt_parts_of_lt {i : Nat} (h : i < s.numbers.length) : numberAt s.parts i = s.number i := by
  rw [parts, numberAt_append, if_pos (by simpa using h), number]

/-- In the place of a missing number stands an identifier of the tag. -/
theorem numberAt_parts_of_le {i : Nat} (h : s.numbers.length ≤ i) :
    numberAt s.parts i = numberAt s.identifiers (i - s.numbers.length) := by
  rw [parts, numberAt_append, if_neg (by simpa using h), List.length_map]

theorem number_of_length_le {i : Nat} (h : s.numbers.length ≤ i) : s.number i = 0 :=
  numberAt_of_length_le (by simpa using h)

theorem number_le_numberAt_parts (i : Nat) : s.number i ≤ numberAt s.parts i := by
  rcases Nat.lt_or_ge i s.numbers.length with h | h
  · rw [s.numberAt_parts_of_lt h]
  · rw [s.number_of_length_le h]
    exact Nat.zero_le _

/-- The numbers are those of the release exactly if what stands in the places of missing ones counts as
zero. -/
theorem forall_numberAt_parts_eq_iff :
    (∀ i < 3, numberAt s.parts i = s.number i) ↔ ∀ p ∈ s.identifiers.take s.missing, leadingNumber p = 0 := by
  rw [← forall_numberAt_eq_zero_iff, missing]
  constructor
  · intro h j hj
    have hplace := h (s.numbers.length + j) (by omega)
    rwa [s.numberAt_parts_of_le (by omega), s.number_of_length_le (by omega), Nat.add_sub_cancel_left] at hplace
  · intro h i hi
    rcases Nat.lt_or_ge i s.numbers.length with hlt | hle
    · exact s.numberAt_parts_of_lt hlt
    · rw [s.numberAt_parts_of_le hle, s.number_of_length_le hle]
      exact h _ (by omega)

theorem tagOf_parts : tagOf s.parts = names (s.identifiers.drop s.missing) := by
  rw [parts, tagOf_append (by simpa using s.length_numbers_le), List.length_map, missing]

theorem ofText_release : ofText s.release.text = ⟨s.number 0, s.number 1, s.number 2, []⟩ := by
  have hparts : s.release.parts = s.numbers.map Stretch.chars := List.append_nil _
  have htag : tagOf s.release.parts = [] := by
    rw [tagOf_parts]
    exact congrArg names List.drop_nil
  rw [ofText_text, htag, hparts, number, number, number]

theorem missing_filled : s.filled.missing = 0 := by
  simp [filled, missing]
  omega

theorem number_filled (i : Nat) : s.filled.number i = s.number i := by
  rcases Nat.lt_or_ge i s.numbers.length with h | h
  · rw [number, filled, List.map_append, numberAt_append, if_pos (by simpa using h), number]
  · rw [s.number_of_length_le h, number, filled, List.map_append, numberAt_append, if_neg (by simpa using h),
      List.map_replicate]
    refine numberAt_eq_zero (fun p hp => ?_) _
    obtain rfl := List.eq_of_mem_replicate hp
    decide

variable {s} in
/-- Where no number is missing all identifiers belong to the tag. -/
theorem ofText_text_of_missing (h : s.missing = 0) :
    ofText s.text = ⟨s.number 0, s.number 1, s.number 2, names s.identifiers⟩ := by
  have hnumbers : ∀ i < 3, numberAt s.parts i = s.number i := by
    rw [forall_numberAt_parts_eq_iff, h]
    simp
  rw [ofText_text, tagOf_parts, h, hnumbers 0 (by decide), hnumbers 1 (by decide), hnumbers 2 (by decide)]
  rfl

theorem ofText_filled : ofText s.filled.text = ⟨s.number 0, s.number 1, s.number 2, names s.identifiers⟩ := by
  rw [ofText_text_of_missing s.missing_filled, number_filled, number_filled, number_filled]
  rfl

/-- A version is below its release exactly if what stands in the places of the missing numbers counts as zero
and a name is left for the tag. No number is below that of the release, so the order is decided by whether all
are equal and by the tag. -/
theorem order_release_eq_lt_iff :
    order s.text s.release.text = .lt ↔
      (∀ p ∈ s.identifiers.take s.missing, leadingNumber p = 0) ∧
        ∃ p ∈ s.identifiers.drop s.missing, p ≠ [] ∧ isAllDigits p = false := by
  have hnames : names (s.identifiers.drop s.missing) ≠ [] ↔
      ∃ p ∈ s.identifiers.drop s.missing, p ≠ [] ∧ isAllDigits p = false := by
    rw [ne_eq, names_eq_nil_iff]
    simp
  rw [order, ofText_text, ofText_release, compareKeys_key_eq_lt_iff (s.number_le_numberAt_parts 0)
    (s.number_le_numberAt_parts 1) (s.number_le_numberAt_parts 2) rfl, tagOf_parts, hnames,
    ← forall_numberAt_parts_eq_iff, forall_lt_three, and_assoc, and_assoc]

end Spelling

/-! ## Pre-releases below their releases -/

/-- An identifier in the place of a number is not heard if it counts as zero, as a missing number does, and is
no name, so that the tag is without it anyway. -/
def IsSilent (p : List Char) : Prop := leadingNumber p = 0 ∧ (p = [] ∨ isAllDigits p = true)

namespace Spelling

variable {s : Spelling}

theorem key_eq_key_filled_iff :
    (ofText s.text).key = (ofText s.filled.text).key ↔ ∀ p ∈ s.identifiers.take s.missing, IsSilent p := by
  have hsplit : names s.identifiers =
      names (s.identifiers.take s.missing) ++ names (s.identifiers.drop s.missing) := by
    rw [← names_append, List.take_append_drop]
  have hsilent : (∀ p ∈ s.identifiers.take s.missing, IsSilent p) ↔
      (∀ i < 3, numberAt s.parts i = s.number i) ∧ names (s.identifiers.take s.missing) = [] := by
    rw [forall_numberAt_parts_eq_iff, names_eq_nil_iff, ← forall₂_and]
    rfl
  rw [hsilent, forall_lt_three, ofText_text s, ofText_filled, tagOf_parts, hsplit]
  simp only [key, Key.mk.injEq]
  constructor
  · rintro ⟨hmajor, hminor, hpatch, -, hids⟩
    have hlength := congrArg List.length hids
    rw [List.length_map, List.length_map, List.length_append] at hlength
    exact ⟨⟨hmajor, hminor, hpatch⟩, List.eq_nil_of_length_eq_zero (by omega)⟩
  · rintro ⟨⟨hmajor, hminor, hpatch⟩, hnames⟩
    rw [hnames, List.nil_append]
    exact ⟨hmajor, hminor, hpatch, rfl, rfl⟩

/-- **A pre-release has the key that it has with its missing numbers filled in, and is below its release,
exactly if the identifiers in the places of the missing numbers are silent.** With three numbers it always
does. Every target of a constraint has such a spelling (`isTarget_iff`). -/
theorem key_filled_and_below_release_iff (hname : ∃ p ∈ s.identifiers, p ≠ [] ∧ isAllDigits p = false) :
    ((ofText s.text).key = (ofText s.filled.text).key ∧ order s.text s.release.text = .lt) ↔
      ∀ p ∈ s.identifiers.take s.missing, IsSilent p := by
  rw [key_eq_key_filled_iff, order_release_eq_lt_iff]
  refine ⟨fun h => h.1, fun hsilent => ⟨hsilent, fun p hp => (hsilent p hp).1, ?_⟩⟩
  obtain ⟨p, hp, hne, hdigits⟩ := hname
  rw [← List.take_append_drop s.missing s.identifiers, List.mem_append] at hp
  refine ⟨p, hp.resolve_left fun hfront => ?_, hne, hdigits⟩
  exact (hsilent p hfront).2.elim hne fun h => Bool.noConfusion (h.symm.trans hdigits)

/-- A version of one number, with zeros as the first identifiers of its tag. -/
def zerosBeta : Spelling where
  lettered := false
  numbers := [.of ['7'] (by decide) (by decide)]
  numbers_ne_nil := List.cons_ne_nil _ _
  length_numbers_le := by decide
  tag := some (.of ['0', '.', '0', '.', 'b', 'e', 't', 'a'] (by decide) (by decide))
  build := none

theorem zerosBeta_below_release :
    zerosBeta.text = "7-0.0.beta" ∧ (∃ p ∈ zerosBeta.identifiers, p ≠ [] ∧ isAllDigits p = false) ∧
      (ofText "7-0.0.beta").key = (ofText "7.0.0-0.0.beta").key ∧ order "7-0.0.beta" "7" = .lt := by
  have hname : ∃ p ∈ zerosBeta.identifiers, p ≠ [] ∧ isAllDigits p = false :=
    ⟨['b', 'e', 't', 'a'], by decide, by decide, by decide⟩
  have hsilent : ∀ p ∈ zerosBeta.identifiers.take zerosBeta.missing, IsSilent p := by
    unfold IsSilent
    decide
  obtain ⟨hkey, hbelow⟩ := (key_filled_and_below_release_iff hname).mpr hsilent
  exact ⟨rfl, hname, hkey, hbelow⟩

/-- The name of the tag stands in the place of a missing number, so this is the release. -/
theorem bareBeta_not_below_release :
    Constraint.isTarget "7-beta".toList = true ∧
      ¬ ((ofText "7-beta").key = (ofText "7.0.0-beta").key ∧ order "7-beta" "7" = .lt) := by
  decide +kernel

end Spelling

/-! ## Identifiers of digits -/

namespace Spelling

variable (s : Spelling)

/-- The spelling with the given identifiers for its tag. -/
def tagged (first : Stretch isWord) (more : List (Stretch isWord)) : Spelling :=
  { s with
    tag := some
      ⟨first.chars ++ Stretch.dotted more, List.append_ne_nil_of_left_ne_nil first.ne_nil _, fun c hc => by
        have hword : isWord c = true ∨ c = '.' := by
          rcases List.mem_append.mp hc with hc | hc
          · exact .inl (first.inClass c hc)
          · exact (Stretch.mem_dotted hc).symm
        rcases hword with hc | rfl
        · simp [Constraint.isTagChar, hc]
        · decide⟩ }

theorem identifiers_tagged (first : Stretch isWord) (more : List (Stretch isWord)) :
    (s.tagged first more).identifiers = first.chars :: more.map Stretch.chars :=
  components_append_dotted (by decide) (by decide) first more

end Spelling

/-- A number as an identifier. -/
def numeral (n : Nat) : Stretch isWord :=
  ⟨Nat.toDigits 10 n, Nat.toDigits_ne_nil,
    fun _ hc => isWord_of_isPlainDigit (Nat.isDigit_of_mem_toDigits (by decide) (by decide) hc)⟩

theorem isAllDigits_numeral (n : Nat) : isAllDigits (numeral n).chars = true := by
  have hdigits : ∀ c ∈ (numeral n).chars, isDigit c = true := fun c hc => by
    rw [isDigit, isDecimal_of_isPlainDigit (Nat.isDigit_of_mem_toDigits (by decide) (by decide) hc), Bool.true_or]
  simpa [isAllDigits, (numeral n).ne_nil] using hdigits

section Tagged

variable {s : Spelling} {first p q : Stretch isWord} {more others : List (Stretch isWord)}

theorem ofText_tagged (h : s.missing = 0) : ofText (s.tagged first more).text =
    ⟨s.number 0, s.number 1, s.number 2, names (first.chars :: more.map Stretch.chars)⟩ := by
  have htagged : (s.tagged first more).missing = 0 := h
  rw [Spelling.ofText_text_of_missing htagged, Spelling.identifiers_tagged]
  rfl

/-- Tags with the same names are equal, whatever identifiers of digits stand between the names. -/
theorem key_tagged_eq_of_names (h : s.missing = 0)
    (hnames : names (more.map Stretch.chars) = names (others.map Stretch.chars)) :
    (ofText (s.tagged first more).text).key = (ofText (s.tagged first others).text).key := by
  rw [ofText_tagged h, ofText_tagged h, ← List.singleton_append, names_append, hnames, ← names_append,
    List.singleton_append]

/-- A tag of one name is below what continues it with further names. Both tags have the name in front, so they
are compared behind it. -/
theorem order_tagged_eq_lt (h : s.missing = 0) (hmore : names (more.map Stretch.chars) = [])
    (hothers : names (others.map Stretch.chars) ≠ []) (hp : isAllDigits p.chars = false) :
    order (s.tagged p more).text (s.tagged p others).text = .lt := by
  obtain ⟨name, names', hcons⟩ := List.exists_cons_of_ne_nil hothers
  rw [order, ofText_tagged h, ofText_tagged h, names_cons_of_name p.ne_nil hp, names_cons_of_name p.ne_nil hp,
    hmore, hcons]
  simp [compareKeys, compareLex, compareOn, key]

end Tagged

/-- **Versions of three numbers that differ in a number of their tag alone are equal.** So they are ordered as
these numbers are only if the numbers are equal, and each satisfies the demand for the other. A name in the
place of the number makes a greater version. -/
theorem order_numbered {s : Spelling} (hcore : s.numbers.length = 3) {p q : Stretch isWord}
    (hp : isAllDigits p.chars = false) (hq : isAllDigits q.chars = false) (m n : Nat) :
    order (s.tagged p [numeral m]).text (s.tagged p [numeral n]).text = .eq ∧
      (order (s.tagged p [numeral m]).text (s.tagged p [numeral n]).text = compare m n ↔ m = n) ∧
      order (s.tagged p [numeral m]).text (s.tagged p [q]).text = .lt ∧
      satisfies? (some (s.tagged p [numeral n]).text)
        (Comparison.equal.sign ++ (s.tagged p [numeral m]).text) = some true := by
  have hmissing : s.missing = 0 := by rw [Spelling.missing, hcore]
  have hsilent : ∀ k, names ([numeral k].map Stretch.chars) = [] := fun k =>
    names_cons_of_isAllDigits (isAllDigits_numeral k)
  have hkey : ∀ k l,
      (ofText (s.tagged p [numeral k]).text).key = (ofText (s.tagged p [numeral l]).text).key := fun k l =>
    key_tagged_eq_of_names hmissing ((hsilent k).trans (hsilent l).symm)
  have horder : order (s.tagged p [numeral m]).text (s.tagged p [numeral n]).text = .eq :=
    order_eq_eq_iff.mpr (hkey m n)
  refine ⟨horder, ?_, order_tagged_eq_lt hmissing (hsilent m) ?_ hp, ?_⟩
  · rw [horder, eq_comm, compare_eq_iff_eq]
  · rw [List.map_singleton, names_cons_of_name q.ne_nil hq]
    exact List.cons_ne_nil _ _
  · have hseveral : 1 < (s.tagged p [numeral n]).numbers.length := by
      rw [show (s.tagged p [numeral n]).numbers = s.numbers from rfl, hcore]
      decide
    have hknown : isKnown (some (s.tagged p [numeral n]).text) = true := Spelling.isKnown_text _ hseveral
    have htarget : Constraint.isTarget (s.tagged p [numeral m]).text.toList = true := by
      rw [Spelling.toList_text]
      exact Spelling.isTarget_chars _
    rw [satisfies?_sign_append hknown htarget, hkey n m]
    simp [Comparison.holds]

/-- The version `1.0.0`. -/
def Spelling.firstRelease : Spelling where
  lettered := false
  numbers := [.of ['1'] (by decide) (by decide), Spelling.zero, Spelling.zero]
  numbers_ne_nil := List.cons_ne_nil _ _
  length_numbers_le := by decide
  tag := none
  build := none

theorem order_numbered_candidates :
    Spelling.firstRelease.numbers.length = 3 ∧ isAllDigits ['r', 'c'] = false ∧ isAllDigits ['x'] = false ∧
      order "1.0.0-rc.1" "1.0.0-rc.12" = .eq ∧ order "1.0.0-rc.1" "1.0.0-rc.x" = .lt ∧
      satisfies? (some "1.0.0-rc.12") "=1.0.0-rc.1" = some true := by
  have hcore : Spelling.firstRelease.numbers.length = 3 := rfl
  have hcandidate : isAllDigits ['r', 'c'] = false := by decide
  have hname : isAllDigits ['x'] = false := by decide
  obtain ⟨hequal, -, hbelow, hsatisfies⟩ := @order_numbered _ hcore
    (.of ['r', 'c'] (by decide) (by decide)) (.of ['x'] (by decide) (by decide)) hcandidate hname 1 12
  exact ⟨hcore, hcandidate, hname, hequal, hbelow, hsatisfies⟩

/-- The second candidate is the same version as the first. -/
theorem order_candidates_ne_lt :
    ¬ (order "1.0.0-rc.1" "1.0.0-rc.2" = .lt ∧ satisfies? (some "1.0.0-rc.2") "=1.0.0-rc.1" = some false) := by
  decide +kernel

end Version

end TemplateRules
