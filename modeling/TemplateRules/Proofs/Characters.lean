import Mathlib.Data.List.DropRight
import TemplateRules.Text.Blank
import TemplateRules.Text.Case
import TemplateRules.Text.Digit
import TemplateRules.Text.Word

/-!
# Blanks and other characters

A text is stripped of the blanks at its ends and of nothing else, and separators divide it into stretches.
Which characters are blanks, digits or letters is told by tables of the character standard, which are texts.
Their ranges are read once into lists, and what holds of all characters of a table is decided range by range:
no digit and no word character of any script is a blank.

## Main results

* `exists_blanks_around_stripChars`: what stripping leaves of a text
* `exists_splitOn_append`: the stretches of a text that goes on without separators
* `CodeRanges.toList_spans_read`: the ranges of a table from its characters
* `CodeRanges.Apart.contains_eq_false`: tables without a code in common have no character in common
* `isBlank_of_isDecimal`, `isBlank_of_isWord`: digits and word characters are no blanks
-/

namespace TemplateRules.Text

variable {c : Char}

/-! ## Stripping -/

theorem dropWhile_isBlank_eq_self {cs : List Char} (h : ∀ c ∈ cs.head?, isBlank c = false) :
    cs.dropWhile isBlank = cs := by
  cases cs with
  | nil => rfl
  | cons c cs => exact List.dropWhile_cons_of_neg (by simp [h c rfl])

theorem head?_dropWhile_isBlank {cs : List Char} : ∀ c ∈ (cs.dropWhile isBlank).head?, isBlank c = false := by
  intro c hc
  have hnot := List.head?_dropWhile_not isBlank cs
  rw [Option.mem_def.mp hc] at hnot
  simpa using hnot

/-- Of blanks around a word that neither begins nor ends with one, the word is left. -/
theorem stripChars_append {before word after : List Char} (hbefore : ∀ c ∈ before, isBlank c = true)
    (hafter : ∀ c ∈ after, isBlank c = true) (hword : word ≠ [])
    (hhead : ∀ c ∈ word.head?, isBlank c = false) (hlast : ∀ c ∈ word.getLast?, isBlank c = false) :
    stripChars (before ++ word ++ after) = word := by
  have hleft : (before ++ word ++ after).dropWhile isBlank = word ++ after := by
    rw [List.append_assoc, List.dropWhile_append_of_pos hbefore]
    exact dropWhile_isBlank_eq_self (by rwa [List.head?_append_of_ne_nil _ hword])
  have hright : (word ++ after).reverse.dropWhile isBlank = word.reverse := by
    rw [List.reverse_append, List.dropWhile_append_of_pos fun c hc => hafter c (List.mem_reverse.mp hc)]
    exact dropWhile_isBlank_eq_self (by rwa [List.head?_reverse])
  rw [stripChars, hleft, hright, List.reverse_reverse]

/-- What is left of a text are all of its characters but the blanks at both ends. -/
theorem exists_blanks_around_stripChars (cs : List Char) : ∃ before after,
    cs = before ++ stripChars cs ++ after ∧ (∀ c ∈ before, isBlank c = true) ∧
      (∀ c ∈ after, isBlank c = true) ∧ (∀ c ∈ (stripChars cs).head?, isBlank c = false) ∧
      ∀ c ∈ (stripChars cs).getLast?, isBlank c = false := by
  have hleft := List.takeWhile_append_dropWhile (p := isBlank) (l := cs)
  have hright : stripChars cs ++ (cs.dropWhile isBlank).rtakeWhile isBlank = cs.dropWhile isBlank :=
    List.rdropWhile_append_rtakeWhile
  refine ⟨cs.takeWhile isBlank, (cs.dropWhile isBlank).rtakeWhile isBlank, ?_,
    fun c hc => List.mem_takeWhile_imp hc, fun c hc => List.mem_rtakeWhile_imp hc, ?_, ?_⟩
  · rw [List.append_assoc, hright, hleft]
  · intro c hc
    refine @head?_dropWhile_isBlank cs c ?_
    rw [← hright, List.head?_append, Option.mem_def.mp hc]
    rfl
  · rw [stripChars, List.getLast?_reverse]
    exact head?_dropWhile_isBlank

/-- Where no character is a blank there is nothing to strip. -/
theorem stripChars_eq_self {cs : List Char} (h : ∀ c ∈ cs, isBlank c = false) : stripChars cs = cs := by
  rw [stripChars, dropWhile_isBlank_eq_self fun c hc => h c (List.mem_of_mem_head? hc),
    dropWhile_isBlank_eq_self fun c hc => h c (List.mem_reverse.mp (List.mem_of_mem_head? hc)),
    List.reverse_reverse]

/-! ## Stretches between separators -/

/-- A text is cut at its first mark in one way only. -/
theorem append_cons_inj {α : Type} {mark : α} {xs ys r s : List α} (hxs : mark ∉ xs)
    (hys : mark ∉ ys) (h : xs ++ mark :: r = ys ++ mark :: s) : xs = ys ∧ r = s := by
  induction xs generalizing ys with
  | nil =>
    cases ys with
    | nil => simpa using h
    | cons y ys =>
      rw [List.nil_append, List.cons_append, List.cons.injEq] at h
      simp [h.1] at hys
  | cons x xs ih =>
    rw [List.mem_cons, not_or] at hxs
    cases ys with
    | nil =>
      rw [List.nil_append, List.cons_append, List.cons.injEq] at h
      exact absurd h.1.symm hxs.1
    | cons y ys =>
      rw [List.mem_cons, not_or] at hys
      rw [List.cons_append, List.cons_append, List.cons.injEq] at h
      obtain ⟨rfl, rfl⟩ := ih hxs.2 hys.2 h.2
      exact ⟨by rw [h.1], rfl⟩

theorem splitOn_eq_splitOnP (p : Char → Bool) (cs : List Char) : splitOn p cs = cs.splitOnP p := by
  induction cs with
  | nil => rfl
  | cons c cs ih =>
    rw [splitOn, List.splitOnP_cons_eq_if_modifyHead, ih]
    split
    · rfl
    · cases h : cs.splitOnP p with
      | nil => exact absurd h (List.splitOnP_ne_nil p cs)
      | cons w ws => rfl

theorem splitOn_ne_nil (p : Char → Bool) (cs : List Char) : splitOn p cs ≠ [] := by
  rw [splitOn_eq_splitOnP]
  exact List.splitOnP_ne_nil p cs

/-- What is put behind a text and has no separators belongs to its last stretch. -/
theorem exists_splitOn_append {p : Char → Bool} {after : List Char} (hafter : ∀ c ∈ after, p c = false)
    (cs : List Char) :
    ∃ front last, splitOn p cs = front ++ [last] ∧ splitOn p (cs ++ after) = front ++ [last ++ after] := by
  induction cs with
  | nil =>
    refine ⟨[], [], rfl, ?_⟩
    rw [splitOn_eq_splitOnP, List.nil_append, List.splitOnP_eq_singleton hafter]
    rfl
  | cons c cs ih =>
    obtain ⟨front, last, hcs, happend⟩ := ih
    rw [List.cons_append, splitOn, splitOn, hcs, happend]
    split
    · exact ⟨[] :: front, last, rfl, rfl⟩
    · cases front with
      | nil => exact ⟨[], c :: last, rfl, rfl⟩
      | cons w ws => exact ⟨(c :: w) :: ws, last, rfl, rfl⟩

/-! ## Tables -/

/-- What is found under a key stands in the list. -/
theorem mem_of_lookup_eq_some {κ ν : Type} [BEq κ] [LawfulBEq κ] {k : κ} {v : ν} {entries : List (κ × ν)}
    (h : entries.lookup k = some v) : (k, v) ∈ entries := by
  obtain ⟨before, after, hsplit, -⟩ := List.lookup_eq_some_iff.mp h
  simp [hsplit]

/-- The words that separators divide. -/
def wordsOf (cs : List Char) : List (List Char) :=
  (splitOn (fun c => c == ' ' || c == '\n') cs).filter (!·.isEmpty)

/-- The codes of a list from its characters. -/
theorem readCodes_of_toList {source : String} {cs : List Char} (h : source.toList = cs) :
    readCodes source = (wordsOf cs).map hexNumber := by
  subst h
  rfl

/-- What a code is expanded to is not empty. -/
theorem ne_nil_of_mem_readExpansions {source : String} {e : Nat × List Nat} (h : e ∈ readExpansions source) :
    e.2 ≠ [] := by
  obtain ⟨w, -, hw⟩ := List.mem_filterMap.mp h
  split at hw
  · obtain rfl := Option.some.inj hw
    simpa using splitOn_ne_nil _ _
  · simp at hw

namespace CodeRanges

/-- The range that a word writes. -/
def spanOf? (word : List Char) : Option (Nat × Nat) :=
  match splitOn (· == '-') word with
  | [code] => some (hexNumber code, hexNumber code)
  | [first, last] => some (hexNumber first, hexNumber last)
  | _ => none

theorem toList_spans_read {source : String} {cs : List Char} (h : source.toList = cs) :
    (read source).spans.toList = (wordsOf cs).filterMap spanOf? := by
  subst h
  rfl

theorem contains_iff {r : CodeRanges} :
    r.contains c = true ↔ ∃ span ∈ r.spans.toList, span.1 ≤ c.toNat ∧ c.toNat ≤ span.2 := by
  rw [contains, ← Array.any_toList, List.any_eq_true]
  simp only [Bool.and_eq_true, decide_eq_true_eq]

/-- The ranges of two tables have no code in common. -/
def Apart (r s : List (Nat × Nat)) : Prop := ∀ a ∈ r, ∀ b ∈ s, a.2 < b.1 ∨ b.2 < a.1

instance (r s : List (Nat × Nat)) : Decidable (Apart r s) :=
  inferInstanceAs (Decidable (∀ a ∈ r, ∀ b ∈ s, a.2 < b.1 ∨ b.2 < a.1))

theorem Apart.contains_eq_false {r s : CodeRanges} (h : Apart r.spans.toList s.spans.toList)
    (hr : r.contains c = true) : s.contains c = false := by
  obtain ⟨a, ha, hac⟩ := contains_iff.mp hr
  refine Bool.eq_false_iff.mpr fun hs => ?_
  obtain ⟨b, hb, hbc⟩ := contains_iff.mp hs
  have := h a ha b hb
  omega

end CodeRanges

/-! ## Digits -/

/-- A digit is none of the characters that are no digits. -/
theorem ne_of_isDecimal {mark : Char} (h : isDecimal c = true) (hmark : isDecimal mark = false) :
    c ≠ mark := by
  rintro rfl
  exact Bool.noConfusion (h.symm.trans hmark)

section PlainDigits

variable (h : c.isDigit = true)
include h

theorem toNat_of_isPlainDigit : 0x30 ≤ c.toNat ∧ c.toNat ≤ 0x39 := Char.isDigit_iff_toNat.mp h

theorem isDecimal_of_isPlainDigit : isDecimal c = true := by
  have hcode := toNat_of_isPlainDigit h
  rw [isDecimal, decimalValue?, if_pos (by omega), if_pos (by simpa using hcode)]
  rfl

theorem isWord_of_isPlainDigit : isWord c = true := by
  have hcode := toNat_of_isPlainDigit h
  simp [isWord, show c.toNat < 0x80 by omega, isPlainWord, Char.isAlphanum, h]

end PlainDigits

/-- The digits from 0 to 9 write a number in base ten. -/
theorem decimalNumber_eq_ofDigitChars {cs : List Char} (h : ∀ c ∈ cs, c.isDigit = true) :
    decimalNumber cs = Nat.ofDigitChars 10 cs 0 := by
  have hdigit : ∀ (n : Nat), ∀ c ∈ cs, n * 10 + (decimalValue? c).getD 0 = 10 * n + (c.toNat - '0'.toNat) := by
    intro n c hc
    have hcode := toNat_of_isPlainDigit (h c hc)
    rw [decimalValue?, if_pos (by omega), if_pos (by simpa using hcode), Option.getD_some]
    have hzero : '0'.toNat = 0x30 := rfl
    omega
  rw [decimalNumber, List.foldl_ext _ _ _ hdigit, ← Nat.ofDigitChars_eq_foldl]

/-! ## Letter case -/

/-- A character that stays as it is wherever it stands is kept by lower case. -/
theorem mem_lowerFrom {before cs : List Char} (hstays : ∀ before after, lowerInContext before c after = [c])
    (h : c ∈ cs) : c ∈ lowerFrom before cs := by
  induction cs generalizing before with
  | nil => simp at h
  | cons d cs ih =>
    rw [lowerFrom, List.mem_append]
    rcases List.mem_cons.mp h with rfl | h
    · exact .inl (by rw [hstays]; exact List.mem_cons_self)
    · exact .inr (ih h)

theorem lowerInContext_ne_nil (before : List Char) (c : Char) (after : List Char) :
    lowerInContext before c after ≠ [] := by
  rw [lowerInContext]
  split
  · simp
  · split
    · simp
    · split <;> simp

theorem upperChars_ne_nil (c : Char) : upperChars c ≠ [] := by
  rw [upperChars]
  split
  · simp
  · split
    · rename_i codes hcodes
      simpa using ne_nil_of_mem_readExpansions (mem_of_lookup_eq_some hcodes)
    · simp

/-! ## Characters that are no blanks -/

theorem toList_spans_wideBlanks : wideBlanks.spans.toList =
    [(0x85, 0x85), (0xA0, 0xA0), (0x1680, 0x1680), (0x2000, 0x200A), (0x2028, 0x2029), (0x202F, 0x202F),
      (0x205F, 0x205F), (0x3000, 0x3000)] := by
  rw [wideBlanks, CodeRanges.toList_spans_read String.toList_ofList]
  decide +kernel

theorem isBlank_of_isDecimal (h : isDecimal c = true) : isBlank c = false := by
  rw [isDecimal, decimalValue?] at h
  rw [isBlank]
  split at h
  · rename_i hplain
    rw [if_pos hplain]
    split at h
    · rename_i hdigit
      simp only [Bool.and_eq_true, decide_eq_true_eq] at hdigit
      simp only [Bool.or_eq_false_iff, Bool.and_eq_false_imp, decide_eq_true_eq, decide_eq_false_iff_not]
      omega
    · simp at h
  · rename_i hwide
    rw [if_neg hwide]
    have hzeros : ∀ z ∈ wideZeros, ∀ b ∈ wideBlanks.spans.toList, z + 9 < b.1 ∨ b.2 < z := by
      rw [toList_spans_wideBlanks, wideZeros, readCodes_of_toList String.toList_ofList]
      decide +kernel
    simp only [Option.isSome_map, List.find?_isSome, Bool.and_eq_true, decide_eq_true_eq] at h
    obtain ⟨z, hz, hzc⟩ := h
    refine Bool.eq_false_iff.mpr fun hblank => ?_
    obtain ⟨b, hb, hbc⟩ := CodeRanges.contains_iff.mp hblank
    have := hzeros z hz b hb
    omega

/-- What holds of the first codes holds of their characters. -/
theorem forall_toNat_lt {bound : Nat} {p : Char → Prop} (h : ∀ n < bound, p (Char.ofNat n)) :
    ∀ c : Char, c.toNat < bound → p c := by
  intro c hc
  have hcode := h c.toNat hc
  rwa [Char.ofNat_toNat] at hcode

/-- The word characters of the seven-bit range begin with the digits. -/
theorem le_toNat_of_isPlainWord (h : isPlainWord c = true) : 0x30 ≤ c.toNat := by
  have hbelow : ∀ c : Char, c.toNat < 0x30 → isPlainWord c = false := forall_toNat_lt (by decide)
  exact Nat.le_of_not_lt fun hlt => Bool.noConfusion (h.symm.trans (hbelow c hlt))

theorem isBlank_of_isWord (h : isWord c = true) : isBlank c = false := by
  rw [isWord] at h
  rw [isBlank]
  split at h
  · rename_i hplain
    rw [if_pos hplain]
    have := le_toNat_of_isPlainWord h
    simp only [Bool.or_eq_false_iff, Bool.and_eq_false_imp, decide_eq_true_eq, decide_eq_false_iff_not]
    omega
  · rename_i hwide
    rw [if_neg hwide]
    refine CodeRanges.Apart.contains_eq_false ?_ h
    rw [toList_spans_wideBlanks, wideWord, CodeRanges.toList_spans_read String.toList_ofList]
    decide +kernel

end TemplateRules.Text
