import Mathlib.Data.List.TakeWhile
import TemplateRules.Edit.Matches
import TemplateRules.Proofs.Characters
import TemplateRules.Proofs.Outcome

/-!
# Replacement texts that stand for themselves

A replacement text is read from left to right. A token that refers to a group begins where a reference to
one is written, and nowhere else; a backslash before a dollar or a backslash gives the character behind it;
all other characters come out as they are written. So a text without references and without such backslashes
stands for itself, and any text can be written by putting a backslash before each dollar and backslash: the
backslash and its character are one token, so that no token begins at the character.

## Main definitions

* `Pattern.IsReference`: the ways to refer to a group
* `Pattern.IsPlain`: a text without references and without backslashes before dollars and backslashes
* `Pattern.literal`: a text with a backslash before each dollar and backslash
* `Pattern.Writes`: a replacement text that gives a text at every match

## Main results

* `Pattern.refers_firstMark_iff`: where a token refers to a group
* `Pattern.replacementPieces_cons`: a replacement text is read token by token
* `Pattern.writes_literal`: any text can be written, and most are written as they are
-/

namespace TemplateRules.Pattern

open Text

/-! ## References and escapes -/

/-- A reference to a group: a digit of any script behind a dollar or a backslash, or a name of word characters
in braces behind a dollar or in angle brackets behind a backslash and a `g`. -/
inductive IsReference : List Char → Prop
  | dollarDigit {d : Char} (digit : isDecimal d = true) : IsReference ['$', d]
  | backslashDigit {d : Char} (digit : isDecimal d = true) : IsReference ['\\', d]
  | dollarName {name : List Char} (nonempty : name ≠ []) (word : ∀ c ∈ name, isWord c = true) :
      IsReference ('$' :: '\x7b' :: (name ++ ['\x7d']))
  | backslashName {name : List Char} (nonempty : name ≠ []) (word : ∀ c ∈ name, isWord c = true) :
      IsReference ('\\' :: 'g' :: '<' :: (name ++ ['>']))

/-- The characters that a backslash before them makes stand for themselves. -/
def IsSign (c : Char) : Prop := c = '$' ∨ c = '\\'

instance (c : Char) : Decidable (IsSign c) := inferInstanceAs (Decidable (c = '$' ∨ c = '\\'))

/-- Characters without a reference to a group and without a backslash before a dollar or a backslash. -/
structure IsPlain (cs : List Char) : Prop where
  no_reference : ∀ t, IsReference t → ¬ t <:+: cs
  no_escape : ∀ c, IsSign c → ¬ ['\\', c] <:+: cs

/-- A character as a replacement text writes it literally. -/
def literalChar (c : Char) : List Char := if IsSign c then ['\\', c] else [c]

/-- The text with a backslash before each dollar and backslash. -/
def literal (s : String) : String := String.ofList (s.toList.flatMap literalChar)

/-- The replacement text goes with the pattern, and gives the text at every match, however many digits a
number may have. -/
def Writes (p : Pattern) (replacement text : String) : Prop :=
  ∀ most, ∃ pieces, Edit.compileReplacement p replacement most = .ok pieces ∧
    ∀ (subject : List Char) (m : Match), piecesAt pieces (m.group subject) = text.toList

/-- The digits of a token that refers to a group by its number. -/
def Mark.numeral? : Mark → Option (List Char)
  | .digits ds => some ds
  | .name cs => if isAllDigits cs then some cs else none
  | _ => none

/-! ## Tokens -/

section Tokens

variable {c close : Char} {cs name : List Char}

/-- A token refers to a group. -/
def Mark.refers : Mark → Bool
  | .digits _ => true
  | .name _ => true
  | _ => false

theorem closedName?_eq_some_iff (hclose : isWord close = false) : closedName? close cs = some name ↔
    name ≠ [] ∧ (∀ c ∈ name, isWord c = true) ∧ name ++ [close] <+: cs := by
  have hcut := @List.takeWhile_append_dropWhile _ isWord cs
  rw [closedName?]
  constructor
  · intro h
    split at h
    · rename_i hclosed
      obtain rfl := Option.some.inj h
      simp only [Bool.and_eq_true, Bool.not_eq_true', List.isEmpty_eq_false_iff, beq_iff_eq] at hclosed
      obtain ⟨rest, hrest⟩ := List.head?_eq_some_iff.mp hclosed.2
      refine ⟨hclosed.1, fun c hc => List.mem_takeWhile_imp hc, rest, ?_⟩
      rw [List.append_assoc, List.singleton_append, ← hrest, hcut]
    · simp at h
  · rintro ⟨hne, hword, rest, rfl⟩
    rw [List.append_assoc, List.singleton_append, List.takeWhile_append_of_pos hword,
      List.dropWhile_append_of_pos hword]
    simp [hclose, hne]

section

attribute [local simp] firstMark

theorem firstMark_of_not_isSign (h : ¬ IsSign c) (cs : List Char) : firstMark c cs = (.char c, 1) := by
  obtain ⟨hdollar, hbackslash⟩ := not_or.mp h
  simp [hdollar, hbackslash]

theorem firstMark_dollarDigits {d : Char} (hd : isDecimal d = true) (cs : List Char) :
    firstMark '$' (d :: cs) =
      (.digits ((d :: cs).takeWhile isDecimal), ((d :: cs).takeWhile isDecimal).length + 1) := by
  have hbrace : d ≠ '\x7b' := ne_of_isDecimal hd (by decide)
  simp [hbrace, hd]

theorem firstMark_backslashDigits {d : Char} (hd : isDecimal d = true) (cs : List Char) :
    firstMark '\\' (d :: cs) =
      (.digits ((d :: cs).takeWhile isDecimal), ((d :: cs).takeWhile isDecimal).length + 1) := by
  have hg : d ≠ 'g' := ne_of_isDecimal hd (by decide)
  simp [hg, hd]

theorem firstMark_dollarName (h : closedName? '\x7d' cs = some name) :
    firstMark '$' ('\x7b' :: cs) = (.name name, name.length + 3) := by
  simp [h]

theorem firstMark_backslashName (h : closedName? '>' cs = some name) :
    firstMark '\\' ('g' :: '<' :: cs) = (.name name, name.length + 4) := by
  simp [h]

theorem firstMark_sign (h : IsSign c) (cs : List Char) : firstMark '\\' (c :: cs) = (.escaped c, 2) := by
  have hdecimal : isDecimal c = false := by
    rcases h with rfl | rfl <;> decide
  have hg : c ≠ 'g' := by
    rintro rfl
    exact absurd h (by decide)
  simp [hg, hdecimal]

end

/-- A text begins with a reference and a token that refers to a group, with a backslash that has another
character behind it, or with a character that is a token by itself. -/
theorem firstMark_cases (c : Char) (cs : List Char) :
    (∃ t, IsReference t ∧ t <+: c :: cs ∧ (firstMark c cs).1.refers = true) ∨
      (∃ d rest, c = '\\' ∧ cs = d :: rest ∧ firstMark c cs = (.escaped d, 2)) ∨
      firstMark c cs = (.char c, 1) := by
  have hdigit : ∀ d ds, (d :: ds).takeWhile isDecimal ≠ [] → isDecimal d = true := by
    intro d ds hne
    by_contra hd
    exact hne (List.takeWhile_cons_of_neg hd)
  simp only [firstMark]
  split
  · split
    · rename_i rest _ name hname
      obtain ⟨nonempty, word, hprefix⟩ := (closedName?_eq_some_iff (by decide)).mp hname
      exact .inl ⟨_, .dollarName nonempty word, by simpa using hprefix, rfl⟩
    · exact .inr (.inr rfl)
  · split
    · exact .inr (.inr rfl)
    · rename_i hne
      cases cs with
      | nil => simp at hne
      | cons d rest => exact .inl ⟨_, .dollarDigit (hdigit d rest (by simpa using hne)), by simp, rfl⟩
  · split
    · rename_i rest _ name hname
      obtain ⟨nonempty, word, hprefix⟩ := (closedName?_eq_some_iff (by decide)).mp hname
      exact .inl ⟨_, .backslashName nonempty word, by simpa using hprefix, rfl⟩
    · exact .inr (.inl ⟨'g', _, rfl, rfl, rfl⟩)
  · rename_i d rest _
    split
    · exact .inr (.inl ⟨d, rest, rfl, rfl, rfl⟩)
    · rename_i hne
      exact .inl ⟨_, .backslashDigit (hdigit d rest (by simpa using hne)), by simp, rfl⟩
  · exact .inr (.inr rfl)

/-- A token refers to a group where a reference is written, and nowhere else. -/
theorem refers_firstMark_iff :
    (firstMark c cs).1.refers = true ↔ ∃ t, IsReference t ∧ t <+: c :: cs := by
  constructor
  · intro h
    rcases firstMark_cases c cs with ⟨t, ht, hprefix, -⟩ | ⟨d, rest, -, -, hmark⟩ | hmark
    · exact ⟨t, ht, hprefix⟩
    · simp [hmark, Mark.refers] at h
    · simp [hmark, Mark.refers] at h
  · rintro ⟨t, ht, rest, hsplit⟩
    cases ht with
    | @dollarDigit d digit =>
      obtain ⟨rfl, rfl⟩ : '$' = c ∧ d :: rest = cs := by simpa using hsplit
      rw [firstMark_dollarDigits digit]
      rfl
    | @backslashDigit d digit =>
      obtain ⟨rfl, rfl⟩ : '\\' = c ∧ d :: rest = cs := by simpa using hsplit
      rw [firstMark_backslashDigits digit]
      rfl
    | @dollarName name nonempty word =>
      obtain ⟨rfl, rfl⟩ : '$' = c ∧ '\x7b' :: (name ++ ['\x7d'] ++ rest) = cs := by simpa using hsplit
      rw [firstMark_dollarName ((closedName?_eq_some_iff (by decide)).mpr ⟨nonempty, word, rest, rfl⟩)]
      rfl
    | @backslashName name nonempty word =>
      obtain ⟨rfl, rfl⟩ : '\\' = c ∧ 'g' :: '<' :: (name ++ ['>'] ++ rest) = cs := by simpa using hsplit
      rw [firstMark_backslashName ((closedName?_eq_some_iff (by decide)).mpr ⟨nonempty, word, rest, rfl⟩)]
      rfl

theorem isPlain_nil : IsPlain [] where
  no_reference := by
    intro t ht hin
    obtain rfl := List.infix_nil.mp hin
    cases ht
  no_escape := by simp

theorem isPlain_cons_iff : IsPlain (c :: cs) ↔
    (firstMark c cs).1.refers = false ∧ ¬ (c = '\\' ∧ (cs.head? = some '$' ∨ cs.head? = some '\\')) ∧
      IsPlain cs := by
  have hescape : ∀ d, ['\\', d] <+: c :: cs ↔ c = '\\' ∧ cs.head? = some d := by
    intro d
    cases cs <;> simp [List.cons_prefix_cons, eq_comm]
  rw [Bool.eq_false_iff, ne_eq, refers_firstMark_iff]
  constructor
  · intro h
    refine ⟨fun ⟨t, ht, hprefix⟩ => h.no_reference t ht hprefix.isInfix, fun ⟨hc, hhead⟩ => ?_, ?_, ?_⟩
    · rcases hhead with hd | hd
      · exact h.no_escape _ (.inl rfl) ((hescape _).mpr ⟨hc, hd⟩).isInfix
      · exact h.no_escape _ (.inr rfl) ((hescape _).mpr ⟨hc, hd⟩).isInfix
    · exact fun t ht hin => h.no_reference t ht (List.infix_cons hin)
    · exact fun d hsign hin => h.no_escape d hsign (List.infix_cons hin)
  · rintro ⟨hreference, hsign, hcs⟩
    refine ⟨fun t ht hin => ?_, fun d hd hin => ?_⟩
    · rcases List.infix_cons_iff.mp hin with hprefix | hin
      · exact hreference ⟨t, ht, hprefix⟩
      · exact hcs.no_reference t ht hin
    · rcases List.infix_cons_iff.mp hin with hprefix | hin
      · obtain ⟨hc, hhead⟩ := (hescape d).mp hprefix
        rcases hd with rfl | rfl
        · exact hsign ⟨hc, .inl hhead⟩
        · exact hsign ⟨hc, .inr hhead⟩
      · exact hcs.no_escape d hd hin

instance decidableIsPlain : (cs : List Char) → Decidable (IsPlain cs)
  | [] => isTrue isPlain_nil
  | _ :: cs =>
    have := decidableIsPlain cs
    decidable_of_iff _ isPlain_cons_iff.symm

end Tokens

/-! ## Numbers of groups -/

theorem excess?_eq_some_iff {most : Option Nat} {ds : List Char} {count : Nat} :
    excess? most ds = some count ↔
      ∃ n, most = some n ∧ (ds.takeWhile isDecimal).length = count ∧
        n < (ds.takeWhile isDecimal).length := by
  cases most with
  | none => simp [excess?]
  | some n =>
    simp only [excess?, Option.bind_some, Option.filter_eq_some_iff, Option.some.injEq, decide_eq_true_eq,
      exists_eq_left']
    exact and_congr_right fun hcount => by rw [hcount]

theorem excess?_eq_none_iff {most : Option Nat} {ds : List Char} :
    excess? most ds = none ↔ ∀ n, most = some n → (ds.takeWhile isDecimal).length ≤ n := by
  cases most <;> simp [excess?]

/-! ## Reading token by token -/

section Reading

variable {most : Option Nat} {groups : Nat} {names : List (String × Nat)} {c : Char} {cs out : List Char}

theorem marksFrom_eq_drop (skip : Nat) (cs : List Char) : marksFrom skip cs = marksFrom 0 (cs.drop skip) := by
  induction cs generalizing skip with
  | nil => simp [marksFrom]
  | cons c cs ih =>
    cases skip with
    | zero => rfl
    | succ skip => exact ih skip

theorem marks_cons (c : Char) (cs : List Char) :
    marks (c :: cs) = (firstMark c cs).1 :: marks (cs.drop ((firstMark c cs).2 - 1)) := by
  rw [marks, marksFrom, marksFrom_eq_drop, marks]

/-- A replacement text is read token by token. -/
theorem replacementPieces_cons (c : Char) (cs : List Char) :
    replacementPieces most groups names (c :: cs) =
      ((firstMark c cs).1.pieces most groups names).bind fun front =>
        (replacementPieces most groups names (cs.drop ((firstMark c cs).2 - 1))).map fun rest =>
          front ++ rest := by
  rw [replacementPieces, marks_cons, List.mapM_cons, replacementPieces]
  cases (firstMark c cs).1.pieces most groups names with
  | error e => rfl
  | ok front =>
    cases (marks (cs.drop ((firstMark c cs).2 - 1))).mapM (Mark.pieces most groups names) <;> rfl

/-- The pieces of a replacement text have the same text at every match. -/
def WritesChars (most : Option Nat) (groups : Nat) (names : List (String × Nat)) (cs out : List Char) : Prop :=
  ∃ pieces, replacementPieces most groups names cs = .ok pieces ∧ ∀ group, piecesAt pieces group = out

theorem writesChars_nil : WritesChars most groups names [] [] := ⟨[], rfl, fun _ => rfl⟩

/-- A token that is no reference stands for its characters, whatever follows it. -/
theorem WritesChars.cons {mark : Mark} {n : Nat} (front : List Char) (hmark : firstMark c cs = (mark, n + 1))
    (hfront : mark.pieces most groups names = .ok [.chars front])
    (hrest : WritesChars most groups names (cs.drop n) out) :
    WritesChars most groups names (c :: cs) (front ++ out) := by
  obtain ⟨pieces, hpieces, hout⟩ := hrest
  refine ⟨.chars front :: pieces, ?_, fun group => ?_⟩
  · rw [replacementPieces_cons, hmark, hfront, Nat.add_sub_cancel, hpieces]
    rfl
  · rw [piecesAt, List.flatMap_cons, ← piecesAt, hout]

/-- Characters with a backslash before each dollar and backslash write the characters. -/
theorem writesChars_flatMap_literalChar (cs : List Char) :
    WritesChars most groups names (cs.flatMap literalChar) cs := by
  induction cs with
  | nil => exact writesChars_nil
  | cons c cs ih =>
    rw [List.flatMap_cons, literalChar]
    by_cases hsign : IsSign c
    · rw [if_pos hsign]
      refine WritesChars.cons [c] (firstMark_sign hsign _) ?_ ih
      rcases hsign with rfl | rfl <;> rfl
    · rw [if_neg hsign]
      exact WritesChars.cons [c] (firstMark_of_not_isSign hsign _) rfl ih

/-- Plain characters write themselves. A character behind a backslash is passed over with it, so that the
induction is on the length. -/
theorem writesChars_of_isPlain (h : IsPlain cs) : WritesChars most groups names cs cs := by
  induction hlength : cs.length using Nat.strong_induction_on generalizing cs with
  | _ n ih =>
    cases cs with
    | nil => exact writesChars_nil
    | cons c cs =>
      obtain ⟨hrefers, hsign, hcs⟩ := isPlain_cons_iff.mp h
      rw [List.length_cons] at hlength
      rcases firstMark_cases c cs with ⟨t, -, -, hmark⟩ | ⟨d, rest, rfl, rfl, hmark⟩ | hmark
      · exact absurd hmark (Bool.eq_false_iff.mp hrefers)
      · have hd : (d == '$' || d == '\\') = false := by
          simpa [IsSign] using hsign
        have hrest := ih rest.length (by simp at hlength; omega) (isPlain_cons_iff.mp hcs).2.2 rfl
        refine WritesChars.cons ['\\', d] hmark ?_ hrest
        rw [Mark.pieces, hd]
        rfl
      · exact WritesChars.cons [c] hmark rfl (ih cs.length (by omega) hcs rfl)

end Reading

/-! ## Texts that are written -/

theorem compileReplacement_eq_ok_iff {p : Pattern} {replacement : String} {most : Option Nat}
    {pieces : List Piece} : Edit.compileReplacement p replacement most = .ok pieces ↔
      replacementPieces most p.groups p.names replacement.toList = .ok pieces := by
  rw [Edit.compileReplacement]
  split <;> simp_all

theorem writes_of_writesChars {p : Pattern} {replacement text : String}
    (h : ∀ most, WritesChars most p.groups p.names replacement.toList text.toList) :
    p.Writes replacement text := by
  intro most
  obtain ⟨pieces, hpieces, htext⟩ := h most
  exact ⟨pieces, compileReplacement_eq_ok_iff.mpr hpieces, fun subject m => htext (m.group subject)⟩

/-- **Every text can be written.** With a backslash before each of its dollars and backslashes, a text is a
replacement that goes with any pattern and gives the text at every match. A text without references to groups
and without a backslash before a dollar or a backslash is such a replacement as it is. -/
theorem writes_literal (p : Pattern) (s : String) :
    p.Writes (literal s) s ∧ (IsPlain s.toList → p.Writes s s) := by
  refine ⟨writes_of_writesChars fun most => ?_,
    fun hplain => writes_of_writesChars fun most => writesChars_of_isPlain hplain⟩
  rw [literal, String.toList_ofList]
  exact writesChars_flatMap_literalChar s.toList

/-- Signs that look like the beginning of a reference, a line end behind a backslash, and a backslash at the end. -/
theorem writes_literal_unclosed : ∃ p, compile "(a)" = .ok p ∧ p.groups = 1 ∧
    IsPlain "$\x7b1 $\x7b-\x7d \\g<> \\\n$\\".toList ∧
    p.Writes (literal "$\x7b1 $\x7b-\x7d \\g<> \\\n$\\") "$\x7b1 $\x7b-\x7d \\g<> \\\n$\\" ∧
    p.Writes "$\x7b1 $\x7b-\x7d \\g<> \\\n$\\" "$\x7b1 $\x7b-\x7d \\g<> \\\n$\\" := by
  have hplain : IsPlain "$\x7b1 $\x7b-\x7d \\g<> \\\n$\\".toList := by decide +kernel
  exact ⟨_, rfl, rfl, hplain, (writes_literal _ _).1, (writes_literal _ _).2 hplain⟩

end TemplateRules.Pattern
