import TemplateRules.Edit.Literal
import TemplateRules.Proofs.Placement

/-!
# Rewriting a text everywhere

Where the occurrences of a text are to be replaced, they are looked for from left to right, and behind one that
has been found the search goes on after its end: occurrences that overlap it do not count, and neither does
anything that the replacement brings with it. What stands between the occurrences is a cut of the text, and each
text has one. The pieces of the cut are told by two properties: in front of an occurrence a piece forms no other
occurrence with it, and the last piece holds none.

## Main definitions

* `Text.OnlyAtEnd`: a text occurs behind a piece and not earlier
* `Text.IsCut`: the pieces of a text between the occurrences of another one

## Main results

* `Text.exists_isCut`, `Text.IsCut.unique`: every text has one cut
* `Text.IsCut.pieces_eq`: the search finds the pieces of the cut
* `Edit.rewrites_cut`: what is replaced everywhere, and what is replaced once
-/

namespace TemplateRules

namespace Text

/-! ## Cuts -/

/-- A text that is put behind a piece occurs there, and nowhere before its place. -/
def OnlyAtEnd (find piece : String) : Prop := ∀ before after, piece ++ find = before ++ find ++ after → after = ""

/-- A text is cut into pieces, each with an occurrence of the other text behind it, and a last piece: in front of
an occurrence no piece leads up to an earlier one, and in the last piece there is none. -/
structure IsCut (find text : String) (pieces : List String) (last : String) : Prop where
  joined : text = find.intercalate (pieces ++ [last])
  between : ∀ piece ∈ pieces, OnlyAtEnd find piece
  behind : ¬ Occurs find last

section Cuts

variable {find text piece rest last : String} {pieces : List String}

/-- An occurrence behind a piece is the first one if no other lies in the piece and the occurrence together. -/
theorem firstAround_iff_onlyAtEnd : FirstAround find (piece ++ find ++ rest) piece rest ↔ OnlyAtEnd find piece := by
  constructor
  · intro h before after hsplit
    have hle := h.first before (after ++ rest) (by rw [hsplit, String.append_assoc])
    have hlength := congrArg String.length hsplit
    simp only [String.length_append] at hlength
    exact String.length_eq_zero_iff.mp (by omega)
  · intro h
    refine ⟨rfl, fun before after hsplit => ?_⟩
    by_contra hlt
    have hprefix : before.toList ++ find.toList <+: piece.toList ++ find.toList := by
      refine List.prefix_of_prefix_length_le ⟨after.toList, ?_⟩ (List.prefix_append _ rest.toList) ?_
      · simpa using congrArg String.toList hsplit.symm
      · simp only [List.length_append, String.length_toList]
        omega
    obtain ⟨tail, htail⟩ := hprefix
    have hearlier : piece ++ find = before ++ find ++ String.ofList tail :=
      String.toList_inj.mp (by simpa using htail.symm)
    have hlength := congrArg String.length hearlier
    rw [h _ _ hearlier] at hlength
    simp only [String.length_append, String.length_empty] at hlength
    omega

theorem exists_firstAround (h : Occurs find text) : ∃ before after, FirstAround find text before after := by
  rw [occurs_iff, ← around?_isSome_iff, Option.isSome_iff_exists] at h
  obtain ⟨⟨before, after⟩, haround⟩ := h
  exact ⟨_, _, firstAround_of_around? haround⟩

theorem isCut_nil_iff : IsCut find text [] last ↔ text = last ∧ ¬ Occurs find last := by
  constructor
  · intro h
    exact ⟨by simpa using h.joined, h.behind⟩
  · rintro ⟨rfl, hbehind⟩
    exact ⟨by simp, by simp, hbehind⟩

/-- The first piece of a cut is what stands before the first occurrence, and the others cut what stands behind it. -/
theorem isCut_cons_iff : IsCut find text (piece :: pieces) last ↔
    ∃ rest, FirstAround find text piece rest ∧ IsCut find rest pieces last := by
  have hjoined : find.intercalate (piece :: (pieces ++ [last])) =
      piece ++ find ++ find.intercalate (pieces ++ [last]) := String.intercalate_cons_of_ne_nil (by simp)
  constructor
  · rintro ⟨joined, between, behind⟩
    rw [List.cons_append, hjoined] at joined
    obtain ⟨hpiece, hpieces⟩ := List.forall_mem_cons.mp between
    refine ⟨_, ?_, ⟨rfl, hpieces, behind⟩⟩
    rw [joined]
    exact firstAround_iff_onlyAtEnd.mpr hpiece
  · rintro ⟨rest, hfirst, joined, between, behind⟩
    have hpiece : OnlyAtEnd find piece := by
      have hsplit := hfirst.split
      rw [hsplit] at hfirst
      exact firstAround_iff_onlyAtEnd.mp hfirst
    refine ⟨?_, List.forall_mem_cons.mpr ⟨hpiece, between⟩, behind⟩
    rw [List.cons_append, hjoined, ← joined, hfirst.split]

/-- A text has one cut at most. Pieces are taken from both cuts at once: the first occurrence is the same in
both. -/
theorem IsCut.unique {pieces' : List String} {last' : String} (h : IsCut find text pieces last)
    (h' : IsCut find text pieces' last') : pieces = pieces' ∧ last = last' := by
  induction pieces generalizing text pieces' with
  | nil =>
    obtain ⟨rfl, hnowhere⟩ := isCut_nil_iff.mp h
    cases pieces' with
    | nil => exact ⟨rfl, (isCut_nil_iff.mp h').1⟩
    | cons piece' pieces' =>
      obtain ⟨rest, hfirst, -⟩ := isCut_cons_iff.mp h'
      exact absurd hfirst.occurs hnowhere
  | cons piece pieces ih =>
    obtain ⟨rest, hfirst, hrest⟩ := isCut_cons_iff.mp h
    cases pieces' with
    | nil =>
      obtain ⟨rfl, hnowhere⟩ := isCut_nil_iff.mp h'
      exact absurd hfirst.occurs hnowhere
    | cons piece' pieces' =>
      obtain ⟨rest', hfirst', hrest'⟩ := isCut_cons_iff.mp h'
      obtain ⟨rfl, rfl⟩ := hfirst.unique hfirst'
      obtain ⟨rfl, rfl⟩ := ih hrest hrest'
      exact ⟨rfl, rfl⟩

/-- A text has a cut, since behind each occurrence there is less of it left. -/
theorem exists_isCut (hne : find ≠ "") (text : String) : ∃ pieces last, IsCut find text pieces last := by
  induction hlength : text.length using Nat.strong_induction_on generalizing text with
  | _ n ih =>
    by_cases hoccurs : Occurs find text
    · obtain ⟨piece, rest, hfirst⟩ := exists_firstAround hoccurs
      have hfind : find.length ≠ 0 := fun h => hne (String.length_eq_zero_iff.mp h)
      have hshorter : rest.length < n := by
        rw [← hlength, hfirst.split, String.length_append, String.length_append]
        omega
      obtain ⟨pieces, last, hcut⟩ := ih rest.length hshorter rest rfl
      exact ⟨piece :: pieces, last, isCut_cons_iff.mpr ⟨rest, hfirst, hcut⟩⟩
    · exact ⟨[], text, isCut_nil_iff.mpr ⟨rfl, hoccurs⟩⟩

end Cuts

/-! ## The search for the pieces -/

section Search

variable {p text before after : List Char}

theorem piecesFrom_eq_drop (skip : Nat) (text : List Char) :
    piecesFrom p skip text = piecesFrom p 0 (text.drop skip) := by
  induction text generalizing skip with
  | nil => simp [piecesFrom]
  | cons c cs ih =>
    cases skip with
    | zero => rfl
    | succ skip => exact ih skip

/-- The pieces are what stands before the first occurrence and the pieces of what stands behind it. -/
theorem pieces_of_around? (hp : p ≠ []) (h : around? p text = some (before, after)) :
    Text.pieces p text = before :: Text.pieces p after := by
  have hlength : p.length = p.length - 1 + 1 := by
    have := List.length_pos_iff.mpr hp
    omega
  induction text generalizing before with
  | nil => simp [around?, hp] at h
  | cons c cs ih =>
    rw [around?] at h
    rw [Text.pieces, piecesFrom]
    split at h
    · rename_i hbegins
      obtain ⟨rfl, rfl⟩ : before = [] ∧ after = (c :: cs).drop p.length := by simpa [eq_comm] using h
      rw [if_pos hbegins, piecesFrom_eq_drop, hlength, List.drop_succ_cons, ← hlength]
      rfl
    · rename_i hbegins
      obtain ⟨⟨start, rest⟩, hcs, heq⟩ := Option.map_eq_some_iff.mp h
      obtain ⟨rfl, rfl⟩ : c :: start = before ∧ rest = after := by simpa using heq
      have hpieces := ih hcs
      rw [Text.pieces] at hpieces
      rw [if_neg hbegins, hpieces]

theorem pieces_of_around?_eq_none (h : around? p text = none) : Text.pieces p text = [text] := by
  induction text with
  | nil => rfl
  | cons c cs ih =>
    rw [around?] at h
    split at h
    · simp at h
    · rename_i hbegins
      have hpieces := ih (Option.map_eq_none_iff.mp h)
      rw [Text.pieces] at hpieces ⊢
      rw [piecesFrom, if_neg hbegins, hpieces]

theorem around?_of_firstAround {find text before after : String} (h : FirstAround find text before after) :
    around? find.toList text.toList = some (before.toList, after.toList) := by
  obtain ⟨⟨before', after'⟩, haround⟩ :=
    Option.isSome_iff_exists.mp (around?_isSome_iff.mpr (occurs_iff.mp h.occurs))
  obtain ⟨rfl, rfl⟩ := h.unique (firstAround_of_around? haround)
  simp [haround]

/-- The search finds the pieces of the cut. -/
theorem IsCut.pieces_eq {find text last : String} {pieces : List String} (hne : find ≠ "")
    (h : IsCut find text pieces last) :
    Text.pieces find.toList text.toList = (pieces ++ [last]).map String.toList := by
  induction pieces generalizing text with
  | nil =>
    obtain ⟨rfl, hnowhere⟩ := isCut_nil_iff.mp h
    rw [occurs_iff, ← around?_isSome_iff, Option.not_isSome_iff_eq_none] at hnowhere
    exact pieces_of_around?_eq_none hnowhere
  | cons piece pieces ih =>
    obtain ⟨rest, hfirst, hrest⟩ := isCut_cons_iff.mp h
    have hne' : find.toList ≠ [] := by simpa using hne
    rw [pieces_of_around? hne' (around?_of_firstAround hfirst), ih hrest]
    rfl

end Search

/-- Pieces with a text between them are as long as the pieces and the joints together. -/
theorem length_intercalate_concat (joint last : String) (pieces : List String) :
    (joint.intercalate (pieces ++ [last])).length =
      (String.join (pieces ++ [last])).length + pieces.length * joint.length := by
  induction pieces with
  | nil => simp
  | cons piece pieces ih =>
    have hjoined : joint.intercalate (piece :: (pieces ++ [last])) =
        piece ++ joint ++ joint.intercalate (pieces ++ [last]) := String.intercalate_cons_of_ne_nil (by simp)
    rw [List.cons_append, hjoined, String.length_append, String.length_append, ih, String.join_cons,
      String.length_append, List.length_cons, Nat.succ_mul]
    omega

end Text

open Text

namespace Edit

/-! ## Replacing -/

variable {find text last : String} {pieces : List String}

theorem replaceFirst_of_firstAround {before after : String} (hne : find ≠ "")
    (h : FirstAround find text before after) (replacement : String) :
    replaceFirst text find replacement = before ++ replacement ++ after := by
  have hempty : find.isEmpty = false := by simpa using hne
  rw [replaceFirst, hempty, around?_of_firstAround h]
  exact String.toList_inj.mp (by simp)

theorem replaceFirst_of_not_occurs (h : ¬ Occurs find text) (replacement : String) :
    replaceFirst text find replacement = text := by
  rw [occurs_iff, ← around?_isSome_iff, Option.not_isSome_iff_eq_none] at h
  rw [replaceFirst, h]
  split <;> rfl

/-- Replacing everywhere joins the pieces of the cut by the replacement. -/
theorem value_replaceAll_of_isCut (hne : find ≠ "") (h : IsCut find text pieces last) (replacement : String) :
    (replaceAll text find replacement).value = replacement.intercalate (pieces ++ [last]) := by
  have hempty : find.isEmpty = false := by simpa using hne
  have hcount : occurrences text find = pieces.length := by
    simp [occurrences, hempty, h.pieces_eq hne]
  rw [replaceAll, hcount]
  cases pieces with
  | nil =>
    obtain ⟨rfl, -⟩ := isCut_nil_iff.mp h
    simp
  | cons piece pieces =>
    have hjoined : replacedAll text find replacement = replacement.intercalate (piece :: pieces ++ [last]) := by
      rw [replacedAll, hempty, h.pieces_eq hne]
      exact String.toList_inj.mp (by rw [String.toList_intercalate]; simp)
    simpa using hjoined

/-- **Replacing is rewriting from left to right.** A text has one cut at the occurrences of another one; replaced
everywhere, the other text gives way to the replacement between the pieces, and replaced once, it does so behind
the first piece only. Without occurrences the text stays as it is, and the empty text is never replaced. -/
theorem rewrites_cut (text find replacement : String) :
    (find ≠ "" → ∃ pieces last, IsCut find text pieces last ∧
      (∀ pieces' last', IsCut find text pieces' last' → pieces' = pieces ∧ last' = last) ∧
      (replaceAll text find replacement).value = replacement.intercalate (pieces ++ [last]) ∧
      ((replaceAll text find replacement).value.length : Int) =
        text.length + pieces.length * ((replacement.length : Int) - find.length) ∧
      (pieces = [] → replaceFirst text find replacement = text) ∧
      ∀ first others, pieces = first :: others → ∃ rest, text = first ++ find ++ rest ∧
        replaceFirst text find replacement = first ++ replacement ++ rest) ∧
    (replaceAll text "" replacement).value = text ∧ replaceFirst text "" replacement = text := by
  refine ⟨fun hne => ?_, rfl, rfl⟩
  obtain ⟨pieces, last, hcut⟩ := exists_isCut hne text
  have hreplaced := value_replaceAll_of_isCut hne hcut replacement
  refine ⟨pieces, last, hcut, fun _ _ h => h.unique hcut, hreplaced, ?_, ?_, ?_⟩
  · have htext := congrArg String.length hcut.joined
    rw [length_intercalate_concat] at htext
    rw [hreplaced, htext, length_intercalate_concat]
    push_cast
    rw [Int.mul_sub]
    omega
  · rintro rfl
    obtain ⟨rfl, hnowhere⟩ := isCut_nil_iff.mp hcut
    exact replaceFirst_of_not_occurs hnowhere replacement
  · rintro first others rfl
    obtain ⟨rest, hfirst, -⟩ := isCut_cons_iff.mp hcut
    exact ⟨rest, hfirst.split, replaceFirst_of_firstAround hne hfirst replacement⟩

/-- Of the three places where `aa` occurs two count, and that the replacement holds it does not matter. The
result is longer by two, once for each piece with an occurrence behind it. -/
theorem rewrites_cut_overlapping : "aa" ≠ "" ∧ ∃ first second last,
    IsCut "aa" "aaabaa" [first, second] last ∧
    (replaceAll "aaabaa" "aa" "xaa").value = "xaa".intercalate [first, second, last] ∧
    ∃ rest, "aaabaa" = first ++ "aa" ++ rest ∧ replaceFirst "aaabaa" "aa" "xaa" = first ++ "xaa" ++ rest := by
  have hne : "aa" ≠ "" := by decide
  obtain ⟨pieces, last, hcut, -, hvalue, hlength, -, hfirst⟩ := (rewrites_cut "aaabaa" "aa" "xaa").1 hne
  have htwo : pieces.length = 2 := by
    have hresult : (replaceAll "aaabaa" "aa" "xaa").value.length = 8 := by decide
    have hlengths : "aaabaa".length = 6 ∧ "aa".length = 2 ∧ "xaa".length = 3 := by decide
    rw [hresult, hlengths.1, hlengths.2.1, hlengths.2.2] at hlength
    omega
  obtain ⟨first, second, rfl⟩ := List.length_eq_two.mp htwo
  exact ⟨hne, first, second, last, hcut, hvalue, hfirst first [second] rfl⟩

end Edit

end TemplateRules
