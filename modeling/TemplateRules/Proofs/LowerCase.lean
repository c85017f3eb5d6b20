import Mathlib.Data.Char
import TemplateRules.Proofs.Characters

/-!
# Lower case

Lower case turns letters into letters and keeps all other characters, so that no blank and no digit comes or goes
with it. Nor does it change a text twice: what it has written it keeps, also where a letter depends on those
around it or becomes several characters. The table of letters is checked for this run by run, since the codes
that a run maps to either lie apart from those of another run or alternate with them.

## Main definitions

* `CodeRun.avoids`, `CodeRun.clears`: what is checked of the runs of a table
* `isCaseless`: the characters that are no letters
* `IsSettled`: a character that lower case keeps wherever it stands
* `LowersTo`: what lower case may write for a character

## Main results

* `lowerTable_runs`: what holds of the runs of the table of lower case
* `lowersTo_lowerInContext`: only letters are changed, and only into letters, which are kept
-/

namespace TemplateRules.Text

variable {c d : Char}

/-! ## Runs of codes -/

namespace CodeRun

variable {r other : CodeRun} {n : Nat}

/-- A run maps a code. -/
def Holds (r : CodeRun) (n : Nat) : Prop := r.first ≤ n ∧ n ≤ r.last ∧ (n - r.first) % r.step = 0

instance (r : CodeRun) (n : Nat) : Decidable (r.Holds n) :=
  inferInstanceAs (Decidable (r.first ≤ n ∧ n ≤ r.last ∧ (n - r.first) % r.step = 0))

/-- The code that a run maps one of its codes to. -/
def imageOf (r : CodeRun) (n : Nat) : Nat := r.image + (n - r.first)

/-- Whether a run maps to no codes of another one: they lie apart, or the other one holds every second code only
and misses those. -/
def avoids (r other : CodeRun) : Bool :=
  (r.imageOf r.last).blt other.first || other.last.blt r.image ||
    (r.step == 2 || r.first == r.last) && other.step == 2 && r.image % 2 != other.first % 2

theorem not_holds_imageOf (h : r.avoids other = true) (hn : r.Holds n) : ¬ other.Holds (r.imageOf n) := by
  obtain ⟨hfirst, hlast, hstep⟩ := hn
  rintro ⟨hfirst', hlast', hstep'⟩
  simp only [avoids, Bool.or_eq_true, Bool.and_eq_true, Nat.blt_eq, beq_iff_eq, bne_iff_ne] at h
  unfold imageOf at *
  rcases h with (h | h) | ⟨⟨hsecond, hother⟩, hparity⟩
  · omega
  · omega
  · have heven : (n - r.first) % 2 = 0 := by
      rcases hsecond with hsecond | hsingle
      · rwa [hsecond] at hstep
      · omega
    rw [hother] at hstep'
    omega

/-- Whether no code that a run maps or maps to is in one of some ranges. -/
def clears (r : CodeRun) (spans : List (Nat × Nat)) : Bool :=
  spans.all fun span => (r.last.blt span.1 || span.2.blt r.first) &&
    ((r.imageOf r.last).blt span.1 || span.2.blt r.image)

theorem notMem_span_of_clears {spans : List (Nat × Nat)} (h : r.clears spans = true) (hn : r.Holds n) :
    ∀ span ∈ spans, ¬ (span.1 ≤ n ∧ n ≤ span.2) ∧ ¬ (span.1 ≤ r.imageOf n ∧ r.imageOf n ≤ span.2) := by
  intro span hspan
  obtain ⟨hfirst, hlast, -⟩ := hn
  have happart := List.all_eq_true.mp h span hspan
  simp only [Bool.and_eq_true, Bool.or_eq_true, Nat.blt_eq, imageOf] at happart ⊢
  omega

/-- Whether a run maps codes beyond the first ones to codes of characters, which are letters if they are among
the first. -/
def writesLetters (r : CodeRun) : Bool :=
  Nat.ble 0x80 r.first && (Nat.ble 0x61 r.image && (r.imageOf r.last).ble 0x7A ||
    Nat.ble 0x80 r.image && (r.imageOf r.last).blt 0xD800 ||
    Nat.ble 0xE000 r.image && (r.imageOf r.last).blt 0x110000)

theorem toNat_ofNat_imageOf (h : r.writesLetters = true) (hn : r.Holds n) :
    (Char.ofNat (r.imageOf n)).toNat = r.imageOf n ∧ 0x80 ≤ n ∧
      (0x61 ≤ r.imageOf n ∧ r.imageOf n ≤ 0x7A ∨ 0x80 ≤ r.imageOf n) := by
  obtain ⟨hfirst, hlast, -⟩ := hn
  simp only [writesLetters, Bool.and_eq_true, Bool.or_eq_true, Nat.blt_eq, Nat.ble_eq] at h
  unfold imageOf at *
  have hvalid : (r.image + (n - r.first)).isValidChar := by
    unfold Nat.isValidChar
    omega
  refine ⟨by rw [Char.ofNat, dif_pos hvalid]; rfl, by omega, by omega⟩

end CodeRun

namespace CodeMap

/-- The run that a word writes. -/
def runOf? (word : List Char) : Option CodeRun :=
  match splitOn (· == '>') word with
  | [codes, image] =>
    let (range, step) := match splitOn (· == '/') codes with
      | [range, step] => (range, hexNumber step)
      | _ => (codes, 1)
    match splitOn (· == '-') range with
    | [first, last] => some ⟨hexNumber first, hexNumber last, step, hexNumber image⟩
    | _ => some ⟨hexNumber range, hexNumber range, step, hexNumber image⟩
  | _ => none

theorem toList_runs_read {source : String} {cs : List Char} (h : source.toList = cs) :
    (read source).runs.toList = (wordsOf cs).filterMap runOf? := by
  subst h
  rfl

/-- A map keeps a character that no run holds, and maps one that some run holds by such a run. -/
theorem apply_cases (m : CodeMap) (c : Char) :
    ((∀ r ∈ m.runs.toList, ¬ r.Holds c.toNat) ∧ m.apply c = c) ∨
      ∃ r ∈ m.runs.toList, r.Holds c.toNat ∧ m.apply c = Char.ofNat (r.imageOf c.toNat) := by
  have hholds : ∀ r : CodeRun,
      (r.first ≤ c.toNat && c.toNat ≤ r.last && (c.toNat - r.first) % r.step == 0) = true ↔ r.Holds c.toNat := by
    intro r
    simp [CodeRun.Holds, and_assoc]
  rw [apply]
  split
  · rename_i r hfind
    have hr : r.Holds c.toNat := (hholds r).mp (by simpa using Array.find?_some hfind)
    exact .inr ⟨r, (Array.mem_of_find?_eq_some hfind).val, hr, rfl⟩
  · rename_i hfind
    refine .inl ⟨fun r hr hn => ?_, rfl⟩
    exact Array.find?_eq_none.mp hfind r ⟨hr⟩ ((hholds r).mpr hn)

end CodeMap

/-! ## Characters without case -/

/-- A character that is no letter: one of the first that is none, or a blank or a digit. -/
def isCaseless (c : Char) : Bool :=
  if c.toNat < 0x80 then !c.isAlpha else isBlank c || isDigit c

/-- The codes of the blanks and the digits beyond the seven-bit range. -/
def caselessSpans : List (Nat × Nat) :=
  wideBlanks.spans.toList ++ (wideZeros.map fun z => (z, z + 9)) ++ looseDigits.spans.toList

theorem exists_span_of_isCaseless (hwide : 0x80 ≤ c.toNat) (h : isCaseless c = true) :
    ∃ span ∈ caselessSpans, span.1 ≤ c.toNat ∧ c.toNat ≤ span.2 := by
  have hwide' : ¬ c.toNat < 0x80 := Nat.not_lt.mpr hwide
  rw [isCaseless, if_neg hwide', isBlank, if_neg hwide', isDigit, isDecimal, decimalValue?, if_neg hwide'] at h
  simp only [Bool.or_eq_true, Option.isSome_map, List.find?_isSome, Bool.and_eq_true, decide_eq_true_eq] at h
  rcases h with h | ⟨z, hz, hzc⟩ | ⟨-, h⟩
  · obtain ⟨span, hspan, hc⟩ := CodeRanges.contains_iff.mp h
    exact ⟨span, by simp [caselessSpans, hspan], hc⟩
  · exact ⟨(z, z + 9), by simp [caselessSpans, hz], hzc⟩
  · obtain ⟨span, hspan, hc⟩ := CodeRanges.contains_iff.mp h
    exact ⟨span, by simp [caselessSpans, hspan], hc⟩

/-- A wide character is a letter unless its code is that of a blank or a digit. -/
theorem isCaseless_eq_false_of_wide (hwide : 0x80 ≤ c.toNat)
    (h : ∀ span ∈ caselessSpans, ¬ (span.1 ≤ c.toNat ∧ c.toNat ≤ span.2)) : isCaseless c = false := by
  refine Bool.eq_false_iff.mpr fun hcaseless => ?_
  obtain ⟨span, hspan, hc⟩ := exists_span_of_isCaseless hwide hcaseless
  exact h span hspan hc

/-- A letter is no blank and no digit. -/
theorem isBlank_isDigit_of_letter (h : isCaseless c = false) : isBlank c = false ∧ isDigit c = false := by
  by_cases hplain : c.toNat < 0x80
  · have hall : ∀ c : Char, c.toNat < 0x80 → isCaseless c = false → isBlank c = false ∧ isDigit c = false :=
      forall_toNat_lt (by decide +kernel)
    exact hall c hplain h
  · rwa [isCaseless, if_neg hplain, Bool.or_eq_false_iff] at h

/-- Among the first characters lower case changes letters only, and into letters that it keeps. -/
theorem toLower_cases (h : c.toNat < 0x80) : c.toLower.toNat < 0x80 ∧ c.toLower.toLower = c.toLower ∧
    (c.toLower = c ∨ isCaseless c = false ∧ isCaseless c.toLower = false) := by
  have hall : ∀ c : Char, c.toNat < 0x80 → c.toLower.toNat < 0x80 ∧ c.toLower.toLower = c.toLower ∧
      (c.toLower = c ∨ isCaseless c = false ∧ isCaseless c.toLower = false) :=
    forall_toNat_lt (by decide +kernel)
  exact hall c h

/-! ## The table of lower case -/

/-- The runs of the table of lower case map wide letters to letters, and to none that a run maps. -/
theorem lowerTable_runs : (lowerTable.runs.toList.all fun r =>
    r.writesLetters && r.clears caselessSpans && lowerTable.runs.toList.all r.avoids) = true := by
  rw [lowerTable, CodeMap.toList_runs_read String.toList_ofList, caselessSpans, toList_spans_wideBlanks, wideZeros,
    readCodes_of_toList String.toList_ofList, looseDigits, CodeRanges.toList_spans_read String.toList_ofList]
  decide +kernel

/-- The letters with rules of their own are in the table, and what they become beyond the first characters is
neither there nor without case. -/
theorem lowerTable_special :
    (∀ n ∈ [0x130, 0x3A3], ∃ r ∈ lowerTable.runs.toList, r.Holds n) ∧
      ∀ n ∈ [0x307, 0x3C2, 0x3C3], (∀ r ∈ lowerTable.runs.toList, ¬ r.Holds n) ∧
        ∀ span ∈ caselessSpans, ¬ (span.1 ≤ n ∧ n ≤ span.2) := by
  rw [lowerTable, CodeMap.toList_runs_read String.toList_ofList, caselessSpans, toList_spans_wideBlanks, wideZeros,
    readCodes_of_toList String.toList_ofList, looseDigits, CodeRanges.toList_spans_read String.toList_ofList]
  decide +kernel

/-- A character that lower case keeps wherever it stands. -/
def IsSettled (c : Char) : Prop := ∀ before after, lowerInContext before c after = [c]

theorem isSettled_of_toLower (hplain : c.toNat < 0x80) (h : c.toLower = c) : IsSettled c := by
  intro before after
  rw [lowerInContext, if_pos hplain, h]

/-- A wide character that no run of the table holds is kept. -/
theorem isSettled_of_not_holds (hwide : 0x80 ≤ c.toNat)
    (h : ∀ r ∈ lowerTable.runs.toList, ¬ r.Holds c.toNat) : IsSettled c := by
  have hspecial : ∀ n ∈ [0x130, 0x3A3], c.toNat ≠ n := by
    rintro n hn rfl
    obtain ⟨r, hr, hholds⟩ := lowerTable_special.1 _ hn
    exact h r hr hholds
  intro before after
  rw [lowerInContext, if_neg (by omega), if_neg (by simpa using hspecial 0x130 (by simp)),
    if_neg (by simpa using hspecial 0x3A3 (by simp))]
  rcases lowerTable.apply_cases c with ⟨-, hkeep⟩ | ⟨r, hr, hholds, -⟩
  · rw [hkeep]
  · exact absurd hholds (h r hr)

/-- What a run of the table writes is a letter that is kept, and so is no blank and no digit. -/
theorem image_of_holds {r : CodeRun} (hr : r ∈ lowerTable.runs.toList) (hn : r.Holds c.toNat) :
    isCaseless c = false ∧ isCaseless (Char.ofNat (r.imageOf c.toNat)) = false ∧
      IsSettled (Char.ofNat (r.imageOf c.toNat)) := by
  have hchecked := List.all_eq_true.mp lowerTable_runs r hr
  simp only [Bool.and_eq_true] at hchecked
  obtain ⟨⟨hletters, hclears⟩, havoids⟩ := hchecked
  obtain ⟨hcode, hwide, hplace⟩ := CodeRun.toNat_ofNat_imageOf hletters hn
  have hspans := CodeRun.notMem_span_of_clears hclears hn
  refine ⟨isCaseless_eq_false_of_wide hwide fun span hspan => (hspans span hspan).1, ?_⟩
  generalize Char.ofNat (r.imageOf c.toNat) = d at hcode
  rcases hplace with hsmall | hwide'
  · have hall : ∀ c : Char, c.toNat < 0x7B → 0x61 ≤ c.toNat → isCaseless c = false ∧ c.toLower = c :=
      forall_toNat_lt (by decide +kernel)
    obtain ⟨hletter, hlower⟩ := hall d (by omega) (by omega)
    exact ⟨hletter, isSettled_of_toLower (by omega) hlower⟩
  · rw [← hcode] at hwide' hspans
    refine ⟨isCaseless_eq_false_of_wide hwide' fun span hspan => (hspans span hspan).2,
      isSettled_of_not_holds hwide' fun other hother => ?_⟩
    rw [hcode]
    exact CodeRun.not_holds_imageOf (List.all_eq_true.mp havoids other hother) hn

/-- The letters with rules of their own are letters, since the table has them too. -/
theorem isCaseless_of_special (h : c.toNat ∈ [0x130, 0x3A3]) : isCaseless c = false := by
  obtain ⟨r, hr, hholds⟩ := lowerTable_special.1 _ h
  exact (image_of_holds hr hholds).1

/-- The wide characters that these letters become are letters, and are kept. -/
theorem isSettled_of_special {n : Nat} (h : n ∈ [0x307, 0x3C2, 0x3C3]) :
    IsSettled (Char.ofNat n) ∧ isCaseless (Char.ofNat n) = false := by
  obtain ⟨hruns, hspans⟩ := lowerTable_special.2 n h
  have hcodes : ∀ n ∈ [0x307, 0x3C2, 0x3C3], (Char.ofNat n).toNat = n ∧ 0x80 ≤ n := by decide
  obtain ⟨hcode, hwide⟩ := hcodes n h
  rw [← hcode] at hruns hspans hwide
  exact ⟨isSettled_of_not_holds hwide hruns, isCaseless_eq_false_of_wide hwide hspans⟩

/-- What lower case may write for a character: the character, or letters for a letter. In either case it
keeps what it has written. -/
structure LowersTo (c : Char) (written : List Char) : Prop where
  settled : ∀ d ∈ written, IsSettled d
  letters : written = [c] ∨ isCaseless c = false ∧ ∀ d ∈ written, isCaseless d = false

theorem LowersTo.self (h : IsSettled c) : LowersTo c [c] := ⟨by simpa using h, .inl rfl⟩

theorem LowersTo.of_letter {written : List Char} (hletter : isCaseless c = false)
    (hwritten : ∀ d ∈ written, IsSettled d ∧ isCaseless d = false) : LowersTo c written :=
  ⟨fun d hd => (hwritten d hd).1, .inr ⟨hletter, fun d hd => (hwritten d hd).2⟩⟩

theorem lowersTo_toLower (h : c.toNat < 0x80) : LowersTo c [c.toLower] := by
  obtain ⟨hlower, htwice, hcases⟩ := toLower_cases h
  have hsettled : IsSettled c.toLower := isSettled_of_toLower hlower htwice
  rcases hcases with hkeep | ⟨hletter, hletter'⟩
  · rw [hkeep] at hsettled ⊢
    exact .self hsettled
  · exact .of_letter hletter (by simp [hsettled, hletter'])

theorem lowersTo_apply (h : 0x80 ≤ c.toNat) : LowersTo c [lowerTable.apply c] := by
  rcases lowerTable.apply_cases c with ⟨hnone, hkeep⟩ | ⟨r, hr, hholds, himage⟩
  · rw [hkeep]
    exact .self (isSettled_of_not_holds h hnone)
  · obtain ⟨hletter, hcaseless, hsettled⟩ := image_of_holds hr hholds
    rw [himage]
    exact .of_letter hletter (by simp [hsettled, hcaseless])

/-- A capital sigma becomes one of two small ones. -/
theorem lowersTo_sigma {n : Nat} (h : c.toNat = 0x3A3) (hn : n ∈ [0x3C2, 0x3C3]) : LowersTo c [Char.ofNat n] :=
  .of_letter (isCaseless_of_special (by simp [h]))
    (List.forall_mem_singleton.mpr (isSettled_of_special (List.mem_cons_of_mem _ hn)))

/-- A capital I with a dot becomes a small i and a dot above it. -/
theorem lowersTo_dotted (h : c.toNat = 0x130) : LowersTo c [Char.ofNat 0x69, Char.ofNat 0x307] := by
  have hsmall : IsSettled (Char.ofNat 0x69) ∧ isCaseless (Char.ofNat 0x69) = false :=
    ⟨isSettled_of_toLower (by decide) (by decide), by decide⟩
  have hdot := @isSettled_of_special 0x307 (by simp)
  exact .of_letter (isCaseless_of_special (by simp [h])) (by simp [hsmall, hdot])

/-- Only letters are changed, and only into letters, which are kept. -/
theorem lowersTo_lowerInContext (before : List Char) (c : Char) (after : List Char) :
    LowersTo c (lowerInContext before c after) := by
  rw [lowerInContext]
  split_ifs with hplain hdotted hsigma hend
  · exact lowersTo_toLower hplain
  · exact lowersTo_dotted (beq_iff_eq.mp hdotted)
  · exact lowersTo_sigma (beq_iff_eq.mp hsigma) (by simp)
  · exact lowersTo_sigma (beq_iff_eq.mp hsigma) (by simp)
  · exact lowersTo_apply (Nat.not_lt.mp hplain)

/-! ## Texts in lower case -/

section Texts

variable {before cs : List Char}

theorem exists_of_mem_lowerFrom (h : d ∈ lowerFrom before cs) :
    ∃ c ∈ cs, ∃ before after, d ∈ lowerInContext before c after := by
  induction cs generalizing before with
  | nil => simp [lowerFrom] at h
  | cons c cs ih =>
    rw [lowerFrom, List.mem_append] at h
    rcases h with h | h
    · exact ⟨c, List.mem_cons_self, _, _, h⟩
    · obtain ⟨c', hc', hd⟩ := ih h
      exact ⟨c', List.mem_cons_of_mem c hc', hd⟩

/-- What lower case has written it keeps. -/
theorem isSettled_of_mem_lowerChars (h : d ∈ lowerChars cs) : IsSettled d := by
  obtain ⟨c, -, before, after, hd⟩ := exists_of_mem_lowerFrom h
  exact (lowersTo_lowerInContext before c after).settled d hd

/-- A text of characters that are kept is kept. -/
theorem lowerFrom_eq_self (h : ∀ c ∈ cs, IsSettled c) : lowerFrom before cs = cs := by
  induction cs generalizing before with
  | nil => rfl
  | cons c cs ih =>
    rw [List.forall_mem_cons] at h
    rw [lowerFrom, h.1, ih h.2, List.singleton_append]

/-- A character of a text in lower case is one of the text, or it is a letter. -/
theorem mem_or_letter_of_mem_lowerChars (h : d ∈ lowerChars cs) : d ∈ cs ∨ isCaseless d = false := by
  obtain ⟨c, hc, before, after, hd⟩ := exists_of_mem_lowerFrom h
  rcases (lowersTo_lowerInContext before c after).letters with hkeep | ⟨-, hletters⟩
  · rw [hkeep, List.mem_singleton] at hd
    exact .inl (hd ▸ hc)
  · exact .inr (hletters d hd)

/-- A text has a character for which there is one in lower case: itself, or letters for a letter. -/
theorem exists_mem_lowerFrom (h : c ∈ cs) :
    ∃ d ∈ lowerFrom before cs, d = c ∨ isCaseless c = false ∧ isCaseless d = false := by
  induction cs generalizing before with
  | nil => simp at h
  | cons c' cs ih =>
    rcases List.mem_cons.mp h with rfl | h
    · obtain ⟨d, ds, hd⟩ := List.exists_cons_of_ne_nil (lowerInContext_ne_nil before c cs)
      refine ⟨d, by simp [lowerFrom, hd], ?_⟩
      rcases (lowersTo_lowerInContext before c cs).letters with hkeep | ⟨hletter, hletters⟩
      · exact .inl (List.cons.inj (hd.symm.trans hkeep)).1
      · exact .inr ⟨hletter, hletters d (by simp [hd])⟩
    · obtain ⟨d, hd, hcases⟩ := @ih (c' :: before) h
      exact ⟨d, by simp [lowerFrom, hd], hcases⟩

/-- The last character of a text in lower case is that of the text, or letters stand for a letter. -/
theorem getLast?_lowerFrom (h : c ∈ cs.getLast?) :
    ∃ d ∈ (lowerFrom before cs).getLast?, d = c ∨ isCaseless c = false ∧ isCaseless d = false := by
  induction cs generalizing before with
  | nil => simp at h
  | cons c' cs ih =>
    cases cs with
    | nil =>
      obtain rfl : c' = c := by simpa using h
      have hne := lowerInContext_ne_nil before c' []
      have hlast : (lowerInContext before c' []).getLast hne ∈ (lowerFrom before [c']).getLast? := by
        simp [lowerFrom, List.getLast?_eq_getLast_of_ne_nil hne]
      refine ⟨_, hlast, ?_⟩
      rcases (lowersTo_lowerInContext before c' []).letters with hkeep | ⟨hletter, hletters⟩
      · exact .inl (by simp [hkeep])
      · exact .inr ⟨hletter, hletters _ (List.getLast_mem hne)⟩
    | cons c'' cs =>
      obtain ⟨d, hd, hcases⟩ := @ih (c' :: before) (by simpa using h)
      refine ⟨d, ?_, hcases⟩
      rw [lowerFrom, List.getLast?_append, Option.mem_def.mp hd]
      rfl

end Texts

end TemplateRules.Text
