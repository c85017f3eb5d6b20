import Mathlib.Data.List.Infix
import TemplateRules.Text.Case
import TemplateRules.Text.Search

/-!
# Occurrences without regard to case

One text occurs in another if it is a stretch of its characters. Lower case depends on the neighbours of
a character in one place only, the form of a sigma at the end of a word, and there it gives one character
or the other. So a text of seven-bit characters occurs in the lower case of a text exactly if it occurs in
the letters of its characters, put down one by one, and letters can be cut wherever the text is.

## Main definitions

* `Text.letters`: the lower case of every character by itself, with one form of sigma

## Main results

* `Text.occursIn_iff`: occurrences are stretches of characters
* `Text.prefix_lowerChars_iff`, `Text.suffix_lowerChars_iff`, `Text.infix_lowerChars_iff`: seven-bit texts
  in lower case and in letters
-/

namespace TemplateRules.Text

theorem around?_isSome_iff {p text : List Char} : (around? p text).isSome = true ↔ p <:+: text := by
  induction text with
  | nil => cases p <;> simp [around?]
  | cons c cs ih =>
    rw [around?, List.infix_cons_iff]
    by_cases hbegins : p.isPrefixOf (c :: cs) = true
    · simp [hbegins, List.isPrefixOf_iff_prefix.mp hbegins]
    · have hne : ¬ p <+: c :: cs := fun h => hbegins (List.isPrefixOf_iff_prefix.mpr h)
      simp [hbegins, hne, ih]

/-- A text occurs where it is a stretch of the characters. -/
theorem occursIn_iff {p text : List Char} : occursIn p text = true ↔ p <:+: text :=
  around?_isSome_iff

/-! ## Letters -/

/-- The final form of sigma as the other one. -/
def plainSigma (c : Char) : Char := if c = Char.ofNat 0x3C2 then Char.ofNat 0x3C3 else c

/-- The lower case of a character by itself, with one form of sigma. -/
def letter (c : Char) : List Char := (lowerInContext [] c []).map plainSigma

/-- The lower case of every character by itself, with one form of sigma. -/
def letters (cs : List Char) : List Char := cs.flatMap letter

@[simp] theorem letters_nil : letters [] = [] := rfl

@[simp] theorem letters_append (xs ys : List Char) : letters (xs ++ ys) = letters xs ++ letters ys :=
  List.flatMap_append

/-- A character has the same letters wherever it stands. -/
theorem map_plainSigma_lowerInContext (before : List Char) (c : Char) (after : List Char) :
    (lowerInContext before c after).map plainSigma = letter c := by
  rw [letter, lowerInContext, lowerInContext]
  by_cases hsigma : (c.toNat == 0x3A3) = true
  · rw [if_pos hsigma, if_pos hsigma]
    split
    · rfl
    · split
      · rfl
      · have hforms : ∀ b : Bool,
            [Char.ofNat (if b then 0x3C2 else 0x3C3)].map plainSigma = [Char.ofNat 0x3C3] := by decide
        rw [hforms, hforms]
  · rw [if_neg hsigma, if_neg hsigma]

theorem map_plainSigma_lowerFrom (before cs : List Char) :
    (lowerFrom before cs).map plainSigma = letters cs := by
  induction cs generalizing before with
  | nil => rfl
  | cons c cs ih =>
    rw [lowerFrom, List.map_append, map_plainSigma_lowerInContext, ih]
    rfl

/-- A text whose letters are seven-bit characters is put down as it is. -/
theorem map_plainSigma_eq_self {l : List Char} (h : ∀ c ∈ l, (plainSigma c).toNat < 0x80) :
    l.map plainSigma = l := by
  have hfixed : ∀ c ∈ l, plainSigma c = id c := by
    intro c hc
    have hlt := h c hc
    rw [plainSigma] at hlt ⊢
    split at hlt
    · exact absurd hlt (by decide)
    · rename_i hne
      rw [if_neg hne, id]
  rw [List.map_congr_left hfixed, List.map_id]

theorem eq_map_plainSigma_iff {p l : List Char} (hp : ∀ c ∈ p, c.toNat < 0x80) :
    p = l.map plainSigma ↔ p = l := by
  constructor
  · intro h
    rw [h]
    refine map_plainSigma_eq_self fun c hc => hp _ ?_
    rw [h]
    exact List.mem_map_of_mem hc
  · rintro rfl
    refine (map_plainSigma_eq_self fun c hc => ?_).symm
    have hlt := hp c hc
    rw [plainSigma]
    split
    · rename_i hsigma
      rw [hsigma] at hlt
      exact absurd hlt (by decide)
    · exact hlt

/-! ## Seven-bit texts in lower case -/

section SevenBit

variable {p cs : List Char}

theorem infix_lowerChars_iff (hp : ∀ c ∈ p, c.toNat < 0x80) :
    p <:+: lowerChars cs ↔ p <:+: letters cs := by
  rw [← map_plainSigma_lowerFrom [] cs, List.infix_map_iff]
  simp only [eq_map_plainSigma_iff hp, exists_eq_right', lowerChars]

theorem prefix_lowerChars_iff (hp : ∀ c ∈ p, c.toNat < 0x80) :
    p <+: lowerChars cs ↔ p <+: letters cs := by
  rw [← map_plainSigma_lowerFrom [] cs, List.prefix_map_iff]
  simp only [eq_map_plainSigma_iff hp, exists_eq_right', lowerChars]

theorem suffix_lowerChars_iff (hp : ∀ c ∈ p, c.toNat < 0x80) :
    p <:+ lowerChars cs ↔ p <:+ letters cs := by
  rw [← map_plainSigma_lowerFrom [] cs, List.suffix_map_iff]
  simp only [eq_map_plainSigma_iff hp, exists_eq_right', lowerChars]

end SevenBit

end TemplateRules.Text
