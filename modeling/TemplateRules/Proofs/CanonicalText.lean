import Mathlib.Data.List.Basic
import TemplateRules.Value.CanonicalText

/-!
# Canonical texts can be read back

No canonical text of a text begins another one, whatever follows: the characters between the quotes are
read back one by one, and the closing quote is none of them. So a canonical text tells its text, and
where it ends.

## Main definitions

* `Text.readCanonicalChar`: reads one character of a canonical text back

## Main results

* `Text.readCanonicalChar_append`: every character is read back, whatever follows it
* `Text.canonicalText_append_inj`: no canonical text begins another one
* `Text.commaSeparated_append_inj`: lists whose items can be told apart can be told apart
-/

namespace TemplateRules.Text

/-! ## Units -/

theorem hexText_one {n : Nat} (h : n < 16) : hexText 1 n = [Nat.digitChar n] := by
  simp [hexText, Nat.toDigits_of_lt_base h]

theorem hexText_succ {width n : Nat} (hwidth : 0 < width) :
    hexText (width + 1) n = hexText width (n / 16) ++ [Nat.digitChar (n % 16)] := by
  rcases Nat.lt_or_ge n 16 with h | h
  · obtain ⟨w, rfl⟩ : ∃ w, width = w + 1 := ⟨width - 1, by omega⟩
    have hdiv : n / 16 = 0 := by omega
    have hmod : n % 16 = n := by omega
    simp [hexText, Nat.toDigits_of_lt_base h, hdiv, hmod, List.replicate_succ']
  · simp only [hexText, Nat.toDigits_of_base_le (by decide : 1 < 16) h, List.length_append,
      List.length_singleton, Nat.add_sub_add_right, List.append_assoc]

/-- The value of a hexadecimal digit. -/
def hexValue (c : Char) : Nat := if c.toNat < 58 then c.toNat - 48 else c.toNat - 87

theorem hexValue_digitChar {n : Nat} (h : n < 16) : hexValue (Nat.digitChar n) = n := by
  have hall : ∀ m : Fin 16, hexValue (Nat.digitChar m) = m := by decide
  exact hall ⟨n, h⟩

/-- Reads a unit of four hexadecimal digits. -/
def readUnit : List Char → Option (Nat × List Char)
  | a :: b :: c :: d :: rest =>
    some (((hexValue a * 16 + hexValue b) * 16 + hexValue c) * 16 + hexValue d, rest)
  | _ => none

theorem readUnit_append {n : Nat} (h : n < 0x10000) (rest : List Char) :
    readUnit (hexText 4 n ++ rest) = some (n, rest) := by
  rw [hexText_succ (by decide), hexText_succ (by decide), hexText_succ (by decide),
    hexText_one (by omega)]
  simp only [List.cons_append, List.nil_append, readUnit, Option.some.injEq, Prod.mk.injEq, and_true]
  rw [hexValue_digitChar (by omega), hexValue_digitChar (by omega), hexValue_digitChar (by omega),
    hexValue_digitChar (by omega)]
  omega

/-! ## Characters -/

/-- Reads one character of a canonical text; a unit of the upper surrogates is followed by another one. -/
def readCanonicalChar : List Char → Option (Char × List Char)
  | '\\' :: 'u' :: cs => do
    let (n, cs) ← readUnit cs
    if 0xD800 ≤ n ∧ n < 0xDC00 then
      let (m, cs) ← readUnit (cs.drop 2)
      return (Char.ofNat (0x10000 + (n - 0xD800) * 0x400 + (m - 0xDC00)), cs)
    else return (Char.ofNat n, cs)
  | '\\' :: 'n' :: cs => some ('\n', cs)
  | '\\' :: 'r' :: cs => some ('\r', cs)
  | '\\' :: 't' :: cs => some ('\t', cs)
  | '\\' :: 'b' :: cs => some (Char.ofNat 8, cs)
  | '\\' :: 'f' :: cs => some (Char.ofNat 12, cs)
  | '\\' :: c :: cs => some (c, cs)
  | c :: cs => some (c, cs)
  | [] => none

theorem readCanonicalChar_of_ne {c : Char} (h : c ≠ '\\') (rest : List Char) :
    readCanonicalChar (c :: rest) = some (c, rest) := by
  unfold readCanonicalChar
  split <;> simp_all

/-- A unit that is no surrogate is read back as its character. -/
theorem readCanonicalChar_unitEscape {c : Char} (h : c.toNat < 0x10000) (rest : List Char) :
    readCanonicalChar (unitEscape c.toNat ++ rest) = some (c, rest) := by
  have hvalid : c.toNat < 0xD800 ∨ 0xDFFF < c.toNat ∧ c.toNat < 0x110000 := c.valid
  have hnot : ¬ (0xD800 ≤ c.toNat ∧ c.toNat < 0xDC00) := by omega
  simp [unitEscape, readCanonicalChar, readUnit_append h, hnot, Char.ofNat_toNat]

/-- A unit of the upper surrogates is read together with the one that follows. -/
theorem readCanonicalChar_unitEscape_pair {high low : Nat} (hmin : 0xD800 ≤ high)
    (hmax : high < 0xDC00) (hlow : low < 0x10000) (rest : List Char) :
    readCanonicalChar (unitEscape high ++ unitEscape low ++ rest) =
      some (Char.ofNat (0x10000 + (high - 0xD800) * 0x400 + (low - 0xDC00)), rest) := by
  have hunit : high < 0x10000 := by omega
  simp only [unitEscape, List.append_assoc, List.cons_append, readCanonicalChar]
  rw [readUnit_append hunit]
  simp only [Option.bind_eq_bind, Option.bind_some, hmin, hmax, and_self, if_true,
    List.drop_succ_cons, List.drop_zero]
  rw [readUnit_append hlow]
  rfl

/-- Every character is read back, whatever follows it. -/
theorem readCanonicalChar_append (c : Char) (rest : List Char) :
    readCanonicalChar (canonicalChar c ++ rest) = some (c, rest) := by
  have hofNat : ∀ n, c.toNat = n → c = Char.ofNat n := by
    rintro n rfl
    exact (Char.ofNat_toNat c).symm
  simp only [canonicalChar, beq_iff_eq]
  split_ifs with hquote hslash hnewline hreturn htab hback hfeed hshown hunit
  · subst hquote
    rfl
  · subst hslash
    rfl
  · subst hnewline
    rfl
  · subst hreturn
    rfl
  · subst htab
    rfl
  · rw [hofNat 8 hback]
    rfl
  · rw [hofNat 12 hfeed]
    rfl
  · exact readCanonicalChar_of_ne hslash rest
  · exact readCanonicalChar_unitEscape hunit rest
  · have hvalid : c.toNat < 0xD800 ∨ 0xDFFF < c.toNat ∧ c.toNat < 0x110000 := c.valid
    rw [readCanonicalChar_unitEscape_pair (by omega) (by omega) (by omega)]
    rw [← hofNat _ (by omega)]

/-- No character of a canonical text begins with the quote that closes the text. -/
theorem head?_canonicalChar (c : Char) : (canonicalChar c).head? ≠ some '"' := by
  simp only [canonicalChar, beq_iff_eq]
  split_ifs <;> simp_all [unitEscape]

/-! ## Texts -/

/-- The closing quote is not taken for a character of the text. -/
theorem quote_cons_ne (c : Char) (rest r : List Char) : '"' :: r ≠ canonicalChar c ++ rest := by
  intro heq
  have hread := readCanonicalChar_append c rest
  have hhead := head?_canonicalChar c
  cases hc : canonicalChar c with
  | nil =>
    rw [hc, List.nil_append] at heq hread
    rw [← heq, readCanonicalChar_of_ne (by decide)] at hread
    simp only [Option.some.injEq, Prod.mk.injEq] at hread
    simpa using congrArg List.length hread.2
  | cons d cs =>
    rw [hc] at heq hhead
    simp only [List.cons_append, List.cons.injEq] at heq
    simp [← heq.1] at hhead

theorem canonicalChars_append_inj {cs ds r s : List Char}
    (h : cs.flatMap canonicalChar ++ '"' :: r = ds.flatMap canonicalChar ++ '"' :: s) :
    cs = ds ∧ r = s := by
  induction cs generalizing ds with
  | nil =>
    cases ds with
    | nil => simpa using h
    | cons d ds =>
      rw [List.flatMap_nil, List.nil_append, List.flatMap_cons, List.append_assoc] at h
      exact absurd h (quote_cons_ne d _ r)
  | cons c cs ih =>
    cases ds with
    | nil =>
      rw [List.flatMap_nil, List.nil_append, List.flatMap_cons, List.append_assoc] at h
      exact absurd h.symm (quote_cons_ne c _ s)
    | cons d ds =>
      rw [List.flatMap_cons, List.flatMap_cons, List.append_assoc, List.append_assoc] at h
      have hread := congrArg readCanonicalChar h
      rw [readCanonicalChar_append, readCanonicalChar_append, Option.some.injEq, Prod.mk.injEq]
        at hread
      obtain ⟨rfl, hrest⟩ := hread
      obtain ⟨rfl, rfl⟩ := ih hrest
      exact ⟨rfl, rfl⟩

/-- No canonical text begins another one. -/
theorem canonicalText_append_inj {cs ds r s : List Char}
    (h : canonicalText cs ++ r = canonicalText ds ++ s) : cs = ds ∧ r = s := by
  simp only [canonicalText, List.cons_append, List.append_assoc, List.nil_append, List.cons.injEq,
    true_and] at h
  exact canonicalChars_append_inj h

theorem canonicalText_injective : Function.Injective canonicalText := by
  intro cs ds h
  exact (canonicalText_append_inj (congrArg (· ++ []) h)).1

/-! ## Lists -/

/-- Texts of which none begins another one: where two of them are followed by anything, equal wholes have
equal parts. -/
def ToldApart (as bs : List (List Char)) : Prop :=
  ∀ a ∈ as, ∀ b ∈ bs, ∀ r s : List Char, a ++ r = b ++ s → a = b ∧ r = s

theorem commaSeparated_cons (a : List Char) (as : List (List Char)) :
    commaSeparated (a :: as) = a ++ as.flatMap (',' :: ·) := by
  induction as generalizing a with
  | nil => simp [commaSeparated]
  | cons b as ih =>
    rw [List.flatMap_cons, List.cons_append, ← ih b]
    simp [commaSeparated, List.intercalate]

theorem commas_append_inj {as bs : List (List Char)} {close : Char} {r s : List Char}
    (hclose : close ≠ ',') (happart : ToldApart as bs)
    (h : as.flatMap (',' :: ·) ++ close :: r = bs.flatMap (',' :: ·) ++ close :: s) :
    as = bs ∧ r = s := by
  induction as generalizing bs with
  | nil =>
    cases bs with
    | nil => simpa using h
    | cons b bs => simp [hclose] at h
  | cons a as ih =>
    cases bs with
    | nil => simp [hclose.symm] at h
    | cons b bs =>
      simp only [List.flatMap_cons, List.cons_append, List.append_assoc, List.cons.injEq,
        true_and] at h
      obtain ⟨rfl, hrest⟩ := happart a List.mem_cons_self b List.mem_cons_self _ _ h
      obtain ⟨rfl, rfl⟩ := ih (fun a ha b hb =>
        happart a (List.mem_cons_of_mem _ ha) b (List.mem_cons_of_mem _ hb)) hrest
      exact ⟨rfl, rfl⟩

/-- Lists whose items can be told apart can be told apart, where no item begins with the character that
closes the list. -/
theorem commaSeparated_append_inj {as bs : List (List Char)} {close : Char} {r s : List Char}
    (hclose : close ≠ ',') (happart : ToldApart as bs)
    (hopen : ∀ a ∈ as ++ bs, ∃ c cs, a = c :: cs ∧ c ≠ close)
    (h : commaSeparated as ++ close :: r = commaSeparated bs ++ close :: s) :
    as = bs ∧ r = s := by
  cases as with
  | nil =>
    cases bs with
    | nil => simpa [commaSeparated] using h
    | cons b bs =>
      obtain ⟨c, cs, rfl, hc⟩ := hopen b (by simp)
      rw [commaSeparated_cons] at h
      simp [commaSeparated, hc.symm] at h
  | cons a as =>
    cases bs with
    | nil =>
      obtain ⟨c, cs, rfl, hc⟩ := hopen a (by simp)
      rw [commaSeparated_cons] at h
      simp [commaSeparated, hc] at h
    | cons b bs =>
      rw [commaSeparated_cons, commaSeparated_cons, List.append_assoc, List.append_assoc] at h
      obtain ⟨rfl, hrest⟩ := happart a List.mem_cons_self b List.mem_cons_self _ _ h
      obtain ⟨rfl, rfl⟩ := commas_append_inj hclose (fun a ha b hb =>
        happart a (List.mem_cons_of_mem _ ha) b (List.mem_cons_of_mem _ hb)) hrest
      exact ⟨rfl, rfl⟩

end TemplateRules.Text
