import TemplateRules.Proofs.Characters
import TemplateRules.Version.Constraint

/-!
# Versions as constraints write them

A version that a constraint compares with is spelled strictly: perhaps a `v`, one to three numbers with dots
between them, perhaps a tag behind a dash, and perhaps build metadata behind a plus sign. The texts that are
accepted as targets are those that have a spelling, and from the spelling the loose reader finds the numbers
and the identifiers of the tag again.

## Main definitions

* `Stretch`: a nonempty stretch of characters of a class
* `Version.Spelling`: the parts of a version as constraints write it

## Main results

* `Version.Spelling.isTarget_iff`: targets are the texts that have a spelling
* `Constraint.ofText?_sign_append`: a sign in front of a target is read as its comparison
* `Version.Spelling.ofText_text`: what the loose reader makes of a spelled version
-/

namespace TemplateRules

open Text

/-! ## Stretches of characters -/

/-- A nonempty stretch of characters of a class. -/
structure Stretch (p : Char → Bool) where
  chars : List Char
  ne_nil : chars ≠ []
  inClass : ∀ c ∈ chars, p c = true

namespace Stretch

variable {p : Char → Bool} {c : Char}

/-- A stretch of given characters. -/
def of (cs : List Char) (hne : cs ≠ []) (hall : cs.all p = true) : Stretch p := ⟨cs, hne, List.all_eq_true.mp hall⟩

/-- A stretch behind a mark, or nothing. -/
def behind (mark : Char) : Option (Stretch p) → List Char
  | none => []
  | some r => mark :: r.chars

@[simp] theorem behind_none (mark : Char) : behind mark (none : Option (Stretch p)) = [] := rfl

@[simp] theorem behind_some (mark : Char) (r : Stretch p) : behind mark (some r) = mark :: r.chars := rfl

theorem mem_behind {mark : Char} {r : Option (Stretch p)} (h : c ∈ behind mark r) : c = mark ∨ p c = true := by
  cases r with
  | none => simp at h
  | some r => exact (List.mem_cons.mp h).imp_right (r.inClass c)

/-- Stretches behind a first one, each behind a dot. -/
def dotted (more : List (Stretch p)) : List Char := more.flatMap fun r => behind '.' (some r)

@[simp] theorem dotted_nil : dotted ([] : List (Stretch p)) = [] := rfl

@[simp] theorem dotted_cons (r : Stretch p) (more : List (Stretch p)) :
    dotted (r :: more) = '.' :: (r.chars ++ dotted more) := by
  simp [dotted]

theorem mem_dotted {more : List (Stretch p)} (h : c ∈ dotted more) : c = '.' ∨ p c = true := by
  obtain ⟨r, -, hr⟩ := List.mem_flatMap.mp h
  exact mem_behind hr

end Stretch

namespace Constraint

variable {p : Char → Bool} {mark : Char} {cs rest : List Char}

theorem afterRun?_append (r : Stretch p) (hrest : ∀ c ∈ rest.head?, p c = false) :
    afterRun? p (r.chars ++ rest) = some rest := by
  obtain ⟨cs, hne, hall⟩ := r
  cases cs with
  | nil => exact absurd rfl hne
  | cons c cs =>
    have hdrop : (cs ++ rest).dropWhile p = rest := by
      rw [List.dropWhile_append_of_pos fun d hd => hall d (List.mem_cons_of_mem c hd)]
      cases rest with
      | nil => rfl
      | cons d ds => exact List.dropWhile_cons_of_neg (by simpa using hrest d rfl)
    simp [afterRun?, hall c List.mem_cons_self, hdrop]

theorem exists_stretch_of_afterRun? (h : afterRun? p cs = some rest) : ∃ r : Stretch p, cs = r.chars ++ rest := by
  cases cs with
  | nil => simp [afterRun?] at h
  | cons c cs =>
    rw [afterRun?] at h
    split at h
    · rename_i hc
      obtain rfl := Option.some.inj h
      refine ⟨⟨c :: cs.takeWhile p, by simp, ?_⟩, ?_⟩
      · simpa [hc] using fun d hd => List.mem_takeWhile_imp hd
      · simp [List.takeWhile_append_dropWhile]
    · simp at h

/-- Behind a mark a stretch is passed over. -/
theorem afterMarkedRun_cons (r : Stretch p) (hrest : ∀ c ∈ rest.head?, p c = false) :
    afterMarkedRun mark p (mark :: (r.chars ++ rest)) = rest := by
  simp [afterMarkedRun, afterRun?_append r hrest]

/-- Without a mark nothing is passed over. -/
theorem afterMarkedRun_of_head?_ne (h : cs.head? ≠ some mark) : afterMarkedRun mark p cs = cs := by
  cases cs with
  | nil => rfl
  | cons c cs =>
    have hc : (c == mark) = false := by simpa using h
    simp [afterMarkedRun, hc]

theorem exists_behind_of_afterMarkedRun (mark : Char) (p : Char → Bool) (cs : List Char) :
    ∃ r : Option (Stretch p), cs = Stretch.behind mark r ++ afterMarkedRun mark p cs := by
  cases cs with
  | nil => exact ⟨none, rfl⟩
  | cons c cs =>
    rw [afterMarkedRun]
    split
    · rename_i hc
      obtain rfl := eq_of_beq hc
      cases hrun : afterRun? p cs with
      | none => exact ⟨none, rfl⟩
      | some rest =>
        obtain ⟨r, rfl⟩ := exists_stretch_of_afterRun? hrun
        exact ⟨some r, by simp⟩
    · exact ⟨none, rfl⟩

/-- A target without the letter in front. -/
def withoutLetter : List Char → List Char
  | 'v' :: rest => rest
  | cs => cs

/-- Whether characters are a target without a letter. -/
def isNumbered (body : List Char) : Bool :=
  match afterRun? isDecimal body with
  | none => false
  | some rest =>
    (afterMarkedRun '+' isTagChar (afterMarkedRun '-' isTagChar
      (afterMarkedRun '.' isDecimal (afterMarkedRun '.' isDecimal rest)))).isEmpty

theorem isTarget_eq (cs : List Char) : isTarget cs = isNumbered (withoutLetter cs) := by
  unfold isTarget
  split
  · rfl
  · rename_i hplain
    rw [withoutLetter.eq_2 cs hplain]
    rfl

/-- A target without a letter is a first number and then what is passed over behind the marks. Each of the
four marked runs is optional, and the next one starts at what the one before has left. -/
theorem exists_parts_of_isNumbered (h : isNumbered cs = true) :
    ∃ (first : Stretch isDecimal) (second third : Option (Stretch isDecimal))
      (tag build : Option (Stretch isTagChar)),
      cs = first.chars ++ (Stretch.behind '.' second ++ (Stretch.behind '.' third ++
        (Stretch.behind '-' tag ++ Stretch.behind '+' build))) := by
  rw [isNumbered] at h
  cases hrun : afterRun? isDecimal cs with
  | none => simp [hrun] at h
  | some rest =>
    simp only [hrun, List.isEmpty_iff] at h
    obtain ⟨first, rfl⟩ := exists_stretch_of_afterRun? hrun
    obtain ⟨second, hsecond⟩ := exists_behind_of_afterMarkedRun '.' isDecimal rest
    generalize afterMarkedRun '.' isDecimal rest = rest₂ at hsecond h
    obtain ⟨third, hthird⟩ := exists_behind_of_afterMarkedRun '.' isDecimal rest₂
    generalize afterMarkedRun '.' isDecimal rest₂ = rest₃ at hthird h
    obtain ⟨tag, htag⟩ := exists_behind_of_afterMarkedRun '-' isTagChar rest₃
    generalize afterMarkedRun '-' isTagChar rest₃ = rest₄ at htag h
    obtain ⟨build, hbuild⟩ := exists_behind_of_afterMarkedRun '+' isTagChar rest₄
    rw [h, List.append_nil] at hbuild
    exact ⟨first, second, third, tag, build, by rw [hsecond, hthird, htag, hbuild]⟩

theorem isBlank_of_isTagChar {c : Char} (h : isTagChar c = true) : isBlank c = false := by
  simp only [isTagChar, Bool.or_eq_true, beq_iff_eq] at h
  rcases h with (h | rfl) | rfl
  · exact isBlank_of_isWord h
  · decide
  · decide

end Constraint

/-! ## Spellings -/

namespace Version

theorem components_of_notMem {cs : List Char} (h : ∀ c ∈ cs, (c == '.' || c == '-') = false) :
    components cs = [cs] := by
  rw [components, splitOn_eq_splitOnP, List.splitOnP_eq_singleton h]

theorem components_append_cons {mark : Char} (hmark : (mark == '.' || mark == '-') = true)
    (before after : List Char) :
    components (before ++ mark :: after) = components before ++ components after := by
  rw [components, components, components, splitOn_eq_splitOnP, splitOn_eq_splitOnP, splitOn_eq_splitOnP,
    List.splitOnP_append_cons before after hmark]

/-- Stretches with dots between them are the components again. -/
theorem components_append_dotted {p : Char → Bool} (hdot : p '.' = false) (hdash : p '-' = false)
    (first : Stretch p) (more : List (Stretch p)) :
    components (first.chars ++ Stretch.dotted more) = first.chars :: more.map Stretch.chars := by
  have hword : ∀ r : Stretch p, components r.chars = [r.chars] := by
    refine fun r => components_of_notMem fun c hc => ?_
    have hin := r.inClass c hc
    rw [Bool.or_eq_false_iff, beq_eq_false_iff_ne, beq_eq_false_iff_ne]
    constructor <;> rintro rfl <;> simp_all
  induction more generalizing first with
  | nil => simp [hword first]
  | cons r more ih =>
    rw [Stretch.dotted_cons, components_append_cons (by decide), hword first, ih, List.map_cons,
      List.singleton_append]

/-- A version as constraints write it, by its parts. -/
structure Spelling where
  /-- Whether it begins with a `v`. -/
  lettered : Bool
  numbers : List (Stretch isDecimal)
  numbers_ne_nil : numbers ≠ []
  length_numbers_le : numbers.length ≤ 3
  tag : Option (Stretch Constraint.isTagChar)
  build : Option (Stretch Constraint.isTagChar)

namespace Spelling

/-- The letter in front, if there is one. -/
def letter (s : Spelling) : List Char := if s.lettered then ['v'] else []

/-- The numbers with dots between them. -/
def core (s : Spelling) : List Char := ['.'].intercalate (s.numbers.map Stretch.chars)

/-- What stands behind the numbers. -/
def ending (s : Spelling) : List Char := Stretch.behind '-' s.tag ++ Stretch.behind '+' s.build

/-- The characters of a spelled version. -/
def chars (s : Spelling) : List Char := s.letter ++ (s.core ++ s.ending)

/-- A spelled version as a text. -/
def text (s : Spelling) : String := String.ofList s.chars

variable (s : Spelling)

@[simp] theorem toList_text : s.text.toList = s.chars := String.toList_ofList

theorem head?_ending : s.ending.head? = none ∨ s.ending.head? = some '-' ∨ s.ending.head? = some '+' := by
  rw [ending]
  cases s.tag <;> cases s.build <;> simp

theorem isDecimal_of_head?_ending : ∀ c ∈ s.ending.head?, isDecimal c = false := by
  intro c hc
  rcases s.head?_ending with h | h | h <;> rw [h] at hc
  · simp at hc
  · obtain rfl := Option.some.inj hc
    decide
  · obtain rfl := Option.some.inj hc
    decide

/-- The ending is passed over as the grammar has it. -/
theorem afterMarkedRun_ending :
    Constraint.afterMarkedRun '+' Constraint.isTagChar
      (Constraint.afterMarkedRun '-' Constraint.isTagChar s.ending) = [] := by
  have hplus : Constraint.isTagChar '+' = false := by decide
  have hbuild : Constraint.afterMarkedRun '+' Constraint.isTagChar (Stretch.behind '+' s.build) = [] := by
    cases s.build with
    | none => rfl
    | some b => simpa using @Constraint.afterMarkedRun_cons _ '+' [] b (by simp)
  have htag : Constraint.afterMarkedRun '-' Constraint.isTagChar s.ending = Stretch.behind '+' s.build := by
    rw [ending]
    cases s.tag with
    | none => exact Constraint.afterMarkedRun_of_head?_ne (by cases s.build <;> simp)
    | some t => exact Constraint.afterMarkedRun_cons t (by cases s.build <;> simp [hplus])
  rw [htag, hbuild]

theorem core_of_numbers_eq {n : Stretch isDecimal} {more : List (Stretch isDecimal)} (h : s.numbers = n :: more) :
    s.core = n.chars ++ Stretch.dotted more := by
  rw [core, h]
  clear h
  induction more generalizing n with
  | nil => simp
  | cons m more ih =>
    have hcons : ∀ l ls, ['.'].intercalate (n.chars :: l :: ls) = n.chars ++ '.' :: ['.'].intercalate (l :: ls) :=
      fun _ _ => by simp [List.intercalate]
    rw [List.map_cons, List.map_cons, hcons, ← List.map_cons, ih, Stretch.dotted_cons]

/-- At most two more numbers are passed over in two steps. -/
theorem afterMarkedRun_dotted {more : List (Stretch isDecimal)} (h : more.length ≤ 2) :
    Constraint.afterMarkedRun '.' isDecimal
      (Constraint.afterMarkedRun '.' isDecimal (Stretch.dotted more ++ s.ending)) = s.ending := by
  have hdot : isDecimal '.' = false := by decide
  have hdigit := s.isDecimal_of_head?_ending
  have hstop : Constraint.afterMarkedRun '.' isDecimal s.ending = s.ending := by
    refine Constraint.afterMarkedRun_of_head?_ne ?_
    rcases s.head?_ending with h | h | h <;> simp [h]
  match more, h with
  | [], _ => rw [Stretch.dotted_nil, List.nil_append, hstop, hstop]
  | [a], _ =>
    rw [show Stretch.dotted [a] ++ s.ending = '.' :: (a.chars ++ s.ending) by simp,
      Constraint.afterMarkedRun_cons a hdigit, hstop]
  | [a, b], _ =>
    rw [show Stretch.dotted [a, b] ++ s.ending = '.' :: (a.chars ++ '.' :: (b.chars ++ s.ending)) by simp,
      Constraint.afterMarkedRun_cons a (by simp [hdot]), Constraint.afterMarkedRun_cons b hdigit]

theorem exists_core_eq_cons : ∃ d ds, s.core = d :: ds ∧ isDecimal d = true := by
  obtain ⟨n, more, hnumbers⟩ := List.exists_cons_of_ne_nil s.numbers_ne_nil
  obtain ⟨d, ds, hn⟩ := List.exists_cons_of_ne_nil n.ne_nil
  refine ⟨d, ds ++ Stretch.dotted more, ?_, n.inClass d (by simp [hn])⟩
  rw [s.core_of_numbers_eq hnumbers, hn, List.cons_append]

theorem withoutLetter_chars : Constraint.withoutLetter s.chars = s.core ++ s.ending := by
  obtain ⟨d, ds, hcore, hd⟩ := s.exists_core_eq_cons
  rw [chars, letter]
  cases s.lettered with
  | true => rfl
  | false =>
    have hletter : d ≠ 'v' := ne_of_isDecimal hd (by decide)
    simp [Constraint.withoutLetter, hcore, hletter]

theorem isTarget_chars : Constraint.isTarget s.chars = true := by
  obtain ⟨n, more, hnumbers⟩ := List.exists_cons_of_ne_nil s.numbers_ne_nil
  have hlength : more.length ≤ 2 := by
    have := s.length_numbers_le
    simp only [hnumbers, List.length_cons] at this
    omega
  have hrest : ∀ c ∈ (Stretch.dotted more ++ s.ending).head?, isDecimal c = false := by
    cases more with
    | nil => exact s.isDecimal_of_head?_ending
    | cons m more => simp [show isDecimal '.' = false by decide]
  rw [Constraint.isTarget_eq, withoutLetter_chars, s.core_of_numbers_eq hnumbers, List.append_assoc,
    Constraint.isNumbered, Constraint.afterRun?_append n hrest]
  simp only [s.afterMarkedRun_dotted hlength, s.afterMarkedRun_ending, List.isEmpty_nil]

/-- **Targets are the texts that have a spelling.** -/
theorem isTarget_iff {cs : List Char} : Constraint.isTarget cs = true ↔ ∃ s : Spelling, s.chars = cs := by
  constructor
  · intro h
    obtain ⟨lettered, hcs⟩ : ∃ lettered : Bool,
        cs = (if lettered then ['v'] else []) ++ Constraint.withoutLetter cs := by
      rw [Constraint.withoutLetter.eq_def]
      split
      · exact ⟨true, rfl⟩
      · exact ⟨false, rfl⟩
    rw [Constraint.isTarget_eq] at h
    obtain ⟨first, second, third, tag, build, hbody⟩ := Constraint.exists_parts_of_isNumbered h
    have hlength : (first :: (second.toList ++ third.toList)).length ≤ 3 := by
      cases second <;> cases third <;> simp
    refine ⟨⟨lettered, _, List.cons_ne_nil _ _, hlength, tag, build⟩, ?_⟩
    rw [chars, core_of_numbers_eq _ rfl, hcs, hbody]
    cases second <;> cases third <;> simp [letter, ending]
  · rintro ⟨s, rfl⟩
    exact s.isTarget_chars

/-! ### Reading a spelled version -/

theorem mem_core {c : Char} (hc : c ∈ s.core) : c = '.' ∨ isDecimal c = true := by
  obtain ⟨n, more, hnumbers⟩ := List.exists_cons_of_ne_nil s.numbers_ne_nil
  rw [s.core_of_numbers_eq hnumbers, List.mem_append] at hc
  rcases hc with hc | hc
  · exact .inr (n.inClass c hc)
  · exact Stretch.mem_dotted hc

theorem isBlank_of_mem_chars {c : Char} (hc : c ∈ s.chars) : isBlank c = false := by
  rw [chars, letter, ending, List.mem_append, List.mem_append, List.mem_append] at hc
  rcases hc with hc | hc | hc | hc
  · cases hletter : s.lettered <;> simp [hletter] at hc
    subst hc
    decide
  · rcases s.mem_core hc with rfl | hc
    · decide
    · exact isBlank_of_isDecimal hc
  · rcases Stretch.mem_behind hc with rfl | hc
    · decide
    · exact Constraint.isBlank_of_isTagChar hc
  · rcases Stretch.mem_behind hc with rfl | hc
    · decide
    · exact Constraint.isBlank_of_isTagChar hc

theorem exists_chars_eq_cons : ∃ c cs, s.chars = c :: cs ∧ (c = 'v' ∨ isDecimal c = true) := by
  obtain ⟨d, ds, hcore, hd⟩ := s.exists_core_eq_cons
  rw [chars, letter, hcore]
  cases s.lettered with
  | true => exact ⟨'v', _, rfl, .inl rfl⟩
  | false => exact ⟨d, _, rfl, .inr hd⟩

/-- Without the letter and the build metadata a spelled version has its numbers and its tag. -/
theorem bareText_chars : bareText s.chars = s.core ++ Stretch.behind '-' s.tag := by
  have hplain : ∀ c ∈ s.core ++ Stretch.behind '-' s.tag, (c != '+') = true := by
    intro c hc
    rw [bne_iff_ne]
    rintro rfl
    rcases List.mem_append.mp hc with hc | hc
    · exact absurd (s.mem_core hc) (by decide)
    · exact absurd (Stretch.mem_behind hc) (by decide)
  have hbody : (s.core ++ s.ending).takeWhile (· != '+') = s.core ++ Stretch.behind '-' s.tag := by
    rw [ending, ← List.append_assoc, List.takeWhile_append_of_pos hplain]
    cases s.build <;> simp
  obtain ⟨d, ds, hcore, hd⟩ := s.exists_core_eq_cons
  have hsmall : d ≠ 'v' := ne_of_isDecimal hd (by decide)
  have hcapital : d ≠ 'V' := ne_of_isDecimal hd (by decide)
  rw [← hbody, bareText.eq_def, chars, letter]
  cases s.lettered with
  | true => rfl
  | false => simp [hcore, hsmall, hcapital]

/-- The identifiers of the tag, the empty ones included. -/
def identifiers (s : Spelling) : List (List Char) :=
  match s.tag with
  | none => []
  | some t => components t.chars

/-- The components of a spelled version: its numbers and then its identifiers. -/
def parts (s : Spelling) : List (List Char) := s.numbers.map Stretch.chars ++ s.identifiers

theorem components_core : components s.core = s.numbers.map Stretch.chars := by
  obtain ⟨n, more, hnumbers⟩ := List.exists_cons_of_ne_nil s.numbers_ne_nil
  rw [s.core_of_numbers_eq hnumbers, hnumbers, components_append_dotted (by decide) (by decide), List.map_cons]

/-- The loose reader finds the numbers and the identifiers of a spelled version. -/
theorem components_bareText : components (bareText s.chars) = s.parts := by
  rw [bareText_chars, parts, identifiers]
  cases s.tag with
  | none => simp [components_core]
  | some t => rw [Stretch.behind_some, components_append_cons (by decide), components_core]

theorem ofText_text : ofText s.text =
    ⟨numberAt s.parts 0, numberAt s.parts 1, numberAt s.parts 2, tagOf s.parts⟩ := by
  rw [ofText, toList_text, stripChars_eq_self fun c => s.isBlank_of_mem_chars, components_bareText]

/-- A version of several numbers has a dot, which no text has that stands for an undetected version. -/
theorem isKnown_text (h : 1 < s.numbers.length) : isKnown (some s.text) = true := by
  have hdot : '.' ∈ s.chars := by
    obtain ⟨n, more, hnumbers⟩ := List.exists_cons_of_ne_nil s.numbers_ne_nil
    obtain ⟨m, more, rfl⟩ := List.exists_cons_of_ne_nil (show more ≠ [] by rintro rfl; simp [hnumbers] at h)
    simp [chars, s.core_of_numbers_eq hnumbers]
  have hunknown : ∀ t ∈ unknownTexts, '.' ∉ t.toList := by decide
  have hlower : '.' ∈ (lower (strip s.text)).toList := by
    rw [lower, strip, toList_text, stripChars_eq_self fun c => s.isBlank_of_mem_chars, String.toList_ofList,
      String.toList_ofList]
    exact mem_lowerFrom (fun _ _ => rfl) hdot
  rw [isKnown, Bool.not_eq_true', List.contains_eq_mem, decide_eq_false_iff_not]
  exact fun hmem => hunknown _ hmem hlower

end Spelling

end Version

/-! ## Reading constraints -/

namespace Constraint

open Version (Spelling)

section Signs

variable {c : Char} {cs : List Char}

theorem splitSign_sign_append (hc : c = 'v' ∨ isDecimal c = true) (comparison : Comparison) :
    splitSign (comparison.sign.toList ++ c :: cs) = (comparison, c :: cs) := by
  have hequal : c ≠ '=' := by
    rintro rfl
    exact absurd hc (by decide)
  cases comparison <;> simp [Comparison.sign, splitSign, hequal]

theorem splitSign_of_no_sign (hc : c = 'v' ∨ isDecimal c = true) :
    splitSign (c :: cs) = (.equal, c :: cs) := by
  have hsign : c ∉ ['>', '<', '~', '^', '='] := by
    intro hmem
    have hall : ['>', '<', '~', '^', '='].all (fun d => d != 'v' && !isDecimal d) = true := by decide
    have hplain := List.all_eq_true.mp hall c hmem
    simp only [Bool.and_eq_true, bne_iff_ne, Bool.not_eq_true'] at hplain
    exact hc.elim hplain.1 fun hdigit => Bool.noConfusion (hdigit.symm.trans hplain.2)
  simp only [List.mem_cons, List.not_mem_nil, or_false, not_or] at hsign
  simp [splitSign, hsign]

theorem isBlank_of_begins (hc : c = 'v' ∨ isDecimal c = true) : isBlank c = false := by
  rcases hc with rfl | hc
  · decide
  · exact isBlank_of_isDecimal hc

end Signs

/-- A text of a sign and a target, or of a target alone, is split there. -/
theorem ofText?_of_splitSign {written target : String} {comparison : Comparison}
    (h : isTarget target.toList = true) (hblank : ∀ c ∈ written.toList, isBlank c = false)
    (hsplit : splitSign written.toList = (comparison, target.toList)) :
    ofText? written = some ⟨comparison, target⟩ := by
  obtain ⟨s, hs⟩ := Spelling.isTarget_iff.mp h
  obtain ⟨c, cs, hchars, hc⟩ := s.exists_chars_eq_cons
  have hdrop : target.toList.dropWhile isBlank = target.toList := by
    rw [← hs, hchars]
    exact List.dropWhile_cons_of_neg (by simp [isBlank_of_begins hc])
  simp [ofText?, stripChars_eq_self hblank, hsplit, hdrop, h]

/-- A sign in front of a target is read as its comparison. -/
theorem ofText?_sign_append {target : String} (h : isTarget target.toList = true) (comparison : Comparison) :
    ofText? (comparison.sign ++ target) = some ⟨comparison, target⟩ := by
  obtain ⟨s, hs⟩ := Spelling.isTarget_iff.mp h
  obtain ⟨c, cs, hchars, hc⟩ := s.exists_chars_eq_cons
  have hsign : ∀ c ∈ comparison.sign.toList, isBlank c = false := by
    have hall : comparison.sign.toList.all (!isBlank ·) = true := by cases comparison <;> decide
    simpa using hall
  refine ofText?_of_splitSign h (fun d hd => ?_) ?_
  · rw [String.toList_append, List.mem_append, ← hs] at hd
    exact hd.elim (hsign d) s.isBlank_of_mem_chars
  · rw [String.toList_append, ← hs, hchars]
    exact splitSign_sign_append hc comparison

/-- A target alone asks for equality. -/
theorem ofText?_of_isTarget {target : String} (h : isTarget target.toList = true) :
    ofText? target = some ⟨.equal, target⟩ := by
  obtain ⟨s, hs⟩ := Spelling.isTarget_iff.mp h
  obtain ⟨c, cs, hchars, hc⟩ := s.exists_chars_eq_cons
  refine ofText?_of_splitSign h (fun d hd => s.isBlank_of_mem_chars (hs ▸ hd)) ?_
  rw [← hs, hchars]
  exact splitSign_of_no_sign hc

end Constraint

end TemplateRules
