import TemplateRules.Proofs.Characters
import TemplateRules.Proofs.Segments

/-!
# Markers of defined partials

A marker of a partial is its name, perhaps between blanks, between an opening and a closing. Expansion reads from
an opening to the first closing brace behind it and does not look whether another opening stands between. So a
marker is replaced by the text of its partial if every opening before it has a closing brace behind it; an
opening that is left open takes the marker in, what stands between is nobody's name, and both stay as they are.

What expansion does around a marker is told by one lemma, for the two cases, and replacement, which says nothing
of the order in which content is read, is compared with it marker by marker. Markers of names do not overlap, so
content has no other markers than those on the two sides of one.

## Main definitions

* `Partials.IsMarker`: what writes a marker of a name
* `Partials.LeavesOpen`: texts with an opening behind which no closing brace stands
* `Partials.Replaced`: content with its markers replaced, and what it becomes
* `Partials.Hidden`: content with a marker behind an opening that is left open

## Main results

* `Partials.expansion_append_marker`: expansion of a marker and of what stands around it
* `Partials.replaced_leavesOpen_iff`: expansion is replacement of the markers that are not hidden
* `Partials.replaced_expanded_iff`: expansion is replacement of all markers exactly where none is hidden
-/

namespace TemplateRules.Partials

open Text

/-! ## Names and markers -/

/-- The names that partials are to have: a letter and then letters, digits and underscores, of the seven-bit
range. -/
def IsName (name : String) : Prop :=
  ∃ c cs, name.toList = c :: cs ∧ c.isAlpha = true ∧ ∀ d ∈ cs, isPlainWord d = true

/-- What writes a marker of a name: the name, perhaps between blanks, between an opening and a closing. -/
def IsMarker (name : String) (marker : List Char) : Prop :=
  ∃ left right, (∀ c ∈ left ++ right, isBlank c = true) ∧
    marker = opening ++ (left ++ name.toList ++ right) ++ closing

/-- What can stand inside a marker of a name: at least one character, and no brace. -/
structure IsInside (inside : List Char) : Prop where
  ne_nil : inside ≠ []
  not_opens : '\x7b' ∉ inside
  not_closes : '\x7d' ∉ inside

theorem toNat_lt_of_isPlainWord {c : Char} (h : isPlainWord c = true) : c.toNat < 0x80 := by
  have hranges : (((decide ('A'.val ≤ c.val ∧ c.val ≤ 'Z'.val) ||
      decide ('a'.val ≤ c.val) && decide (c.val ≤ 'z'.val)) || c.isDigit) || c == '_') = true := h
  simp only [Bool.or_eq_true, Bool.and_eq_true, decide_eq_true_eq, beq_iff_eq] at hranges
  rcases hranges with ((hupper | hlower) | hdigit) | rfl
  · exact Nat.lt_of_le_of_lt (UInt32.le_iff_toNat_le.mp hupper.2) (by decide)
  · exact Nat.lt_of_le_of_lt (UInt32.le_iff_toNat_le.mp hlower.2) (by decide)
  · exact Nat.lt_of_le_of_lt (toNat_of_isPlainDigit hdigit).2 (by decide)
  · decide

theorem isBlank_of_isPlainWord {c : Char} (h : isPlainWord c = true) : isBlank c = false :=
  isBlank_of_isWord (by rwa [isWord, if_pos (toNat_lt_of_isPlainWord h)])

theorem IsName.isPlainWord {name : String} (h : IsName name) : ∀ c ∈ name.toList, isPlainWord c = true := by
  obtain ⟨c, cs, hname, hletter, hrest⟩ := h
  rw [hname, List.forall_mem_cons]
  exact ⟨by simp [Text.isPlainWord, Char.isAlphanum, hletter], hrest⟩

theorem IsName.not_mem {name : String} (h : IsName name) {c : Char} (hc : Text.isPlainWord c = false) :
    c ∉ name.toList :=
  fun hmem => Bool.noConfusion ((h.isPlainWord c hmem).symm.trans hc)

/-- A marker of a name has the name between blanks inside, and refers to it. -/
theorem IsMarker.exists_inside {name : String} {marker : List Char} (h : IsMarker name marker)
    (hname : IsName name) : ∃ inside, marker = opening ++ inside ++ closing ∧ IsInside inside ∧
      nameOf inside = name := by
  obtain ⟨left, right, hblank, rfl⟩ := h
  have hne : name.toList ≠ [] := by
    obtain ⟨c, cs, hcons, -⟩ := hname
    simp [hcons]
  have hnot : ∀ c, isBlank c = false → Text.isPlainWord c = false → c ∉ left ++ name.toList ++ right := by
    intro c hc hword hmem
    rw [List.append_assoc, List.mem_append, List.mem_append] at hmem
    rcases hmem with hleft | hmid | hright
    · exact Bool.noConfusion ((hblank c (List.mem_append_left _ hleft)).symm.trans hc)
    · exact hname.not_mem hword hmid
    · exact Bool.noConfusion ((hblank c (List.mem_append_right _ hright)).symm.trans hc)
  refine ⟨_, rfl, ⟨by simp [hne], hnot _ (by decide) (by decide), hnot _ (by decide) (by decide)⟩, ?_⟩
  have hends : ∀ c ∈ name.toList, isBlank c = false := fun c hc => isBlank_of_isPlainWord (hname.isPlainWord c hc)
  rw [nameOf, stripChars_append (fun c hc => hblank c (List.mem_append_left _ hc))
    (fun c hc => hblank c (List.mem_append_right _ hc)) hne
    (fun c hc => hends c (List.mem_of_mem_head? hc)) (fun c hc => hends c (List.mem_of_mem_getLast? hc)),
    String.ofList_toList]

/-! ## Reading a marker -/

theorem insideMarker?_opening (cs : List Char) : insideMarker? (opening ++ cs) =
    if !(cs.takeWhile (· != '\x7d')).isEmpty && closing.isPrefixOf (cs.dropWhile (· != '\x7d')) then
      some (cs.takeWhile (· != '\x7d')) else none := by
  rw [insideMarker?, if_pos (List.isPrefixOf_iff_prefix.mpr (List.prefix_append _ _))]
  rfl

/-- A text begins with a marker if its opening is closed at the first closing brace behind it, and that is not
at once. -/
theorem insideMarker?_eq_some_iff {cs inside : List Char} : insideMarker? cs = some inside ↔
    inside ≠ [] ∧ '\x7d' ∉ inside ∧ ∃ rest, cs = opening ++ inside ++ closing ++ rest := by
  constructor
  · intro h
    obtain ⟨rest, rfl⟩ := eq_of_insideMarker? h
    rw [List.append_assoc, List.append_assoc, insideMarker?_opening] at h
    split at h
    · rename_i hclosed
      have hinside := Option.some.inj h
      refine ⟨?_, fun hmem => ?_, rest, rfl⟩
      · rw [hinside] at hclosed
        rintro rfl
        simp at hclosed
      · rw [← hinside] at hmem
        simpa using List.mem_takeWhile_imp hmem
    · simp at h
  · rintro ⟨hne, hcloses, rest, rfl⟩
    have hpass : ∀ c ∈ inside, (c != '\x7d') = true := by
      intro c hc
      exact bne_iff_ne.mpr fun heq => hcloses (heq ▸ hc)
    rw [List.append_assoc, List.append_assoc, insideMarker?_opening, List.takeWhile_append_of_pos hpass,
      List.dropWhile_append_of_pos hpass]
    simp [closing, hne]

theorem insideMarker?_marker {inside : List Char} (hinside : IsInside inside) (rest : List Char) :
    insideMarker? (opening ++ inside ++ closing ++ rest) = some inside :=
  insideMarker?_eq_some_iff.mpr ⟨hinside.ne_nil, hinside.not_closes, rest, rfl⟩

/-- A marker in front stays one, whatever stands behind the text. -/
theorem insideMarker?_append {cs inside : List Char} (h : insideMarker? cs = some inside) (after : List Char) :
    insideMarker? (cs ++ after) = some inside := by
  obtain ⟨hne, hcloses, rest, rfl⟩ := insideMarker?_eq_some_iff.mp h
  exact insideMarker?_eq_some_iff.mpr ⟨hne, hcloses, rest ++ after, List.append_assoc _ _ _⟩

theorem insideMarker?_of_not_closes {cs : List Char} (h : '\x7d' ∉ cs) : insideMarker? cs = none := by
  refine Option.eq_none_iff_forall_ne_some.mpr fun inside hinside => h ?_
  obtain ⟨-, -, rest, rfl⟩ := insideMarker?_eq_some_iff.mp hinside
  simp [closing]

/-- A text before a marker begins with a marker of its own, or its opening is closed by the marker only. -/
theorem insideMarker?_append_marker {inside : List Char} (hinside : IsInside inside)
    {before after read : List Char} (hbefore : before ≠ [])
    (h : insideMarker? (before ++ (opening ++ inside ++ closing) ++ after) = some read) :
    insideMarker? before = some read ∨
      ∃ behind, before = opening ++ behind ∧ '\x7d' ∉ behind ∧ read = behind ++ opening ++ inside := by
  obtain ⟨hne, hcloses, rest, hsplit⟩ := insideMarker?_eq_some_iff.mp h
  have hread : '\x7d' ∉ opening ++ read := by simp [opening, hcloses]
  by_cases hclosed : '\x7d' ∈ before
  · left
    obtain ⟨front, back, rfl, hfront⟩ := List.eq_append_cons_of_mem hclosed
    obtain ⟨rfl, hback⟩ : front = opening ++ read ∧
        back ++ (opening ++ inside ++ closing) ++ after = '\x7d' :: rest := by
      refine append_cons_inj hfront hread ?_
      simpa [closing] using hsplit
    cases back with
    | nil => simp [opening] at hback
    | cons c back =>
      obtain rfl : c = '\x7d' := by simpa using congrArg List.head? hback
      exact insideMarker?_eq_some_iff.mpr ⟨hne, hcloses, back, by simp [closing]⟩
  · right
    have hmarker : '\x7d' ∉ before ++ opening ++ inside := by
      simp [opening, hclosed, hinside.not_closes]
    obtain ⟨hopened, -⟩ : before ++ opening ++ inside = opening ++ read ∧ '\x7d' :: after = '\x7d' :: rest := by
      refine append_cons_inj hmarker hread ?_
      simpa [closing] using hsplit
    rcases before with _ | ⟨a, _ | ⟨b, _ | ⟨d, behind⟩⟩⟩
    · exact absurd rfl hbefore
    · simp [opening] at hopened
    · simp [opening] at hopened
    · simp only [opening, List.cons_append, List.nil_append, List.cons.injEq] at hopened
      obtain ⟨rfl, rfl, rfl, rfl⟩ := hopened
      exact ⟨behind, rfl, fun hmem => hclosed (by simp [hmem]), by simp [opening]⟩

/-! ## Openings that are left open -/

/-- A text leaves an opening open: no closing brace stands behind it. -/
def LeavesOpen (cs : List Char) : Prop :=
  ∃ start inside, cs = start ++ opening ++ inside ∧ '\x7d' ∉ inside

theorem not_leavesOpen_nil : ¬ LeavesOpen [] := by
  rintro ⟨start, inside, h, -⟩
  simp [opening] at h

theorem LeavesOpen.append_left {cs : List Char} (h : LeavesOpen cs) (start : List Char) :
    LeavesOpen (start ++ cs) := by
  obtain ⟨front, inside, rfl, hcloses⟩ := h
  exact ⟨start ++ front, inside, by simp, hcloses⟩

theorem leavesOpen_cons_iff {c : Char} {cs : List Char} : LeavesOpen (c :: cs) ↔
    (∃ inside, c :: cs = opening ++ inside ∧ '\x7d' ∉ inside) ∨ LeavesOpen cs := by
  constructor
  · rintro ⟨start, inside, h, hcloses⟩
    cases start with
    | nil => exact .inl ⟨inside, h, hcloses⟩
    | cons d start => exact .inr ⟨start, inside, (List.cons.inj h).2, hcloses⟩
  · rintro (⟨inside, h, hcloses⟩ | h)
    · exact ⟨[], inside, h, hcloses⟩
    · exact h.append_left [c]

/-- What stands before a closing is not left open. -/
theorem leavesOpen_append_closing_iff {before after : List Char} :
    LeavesOpen (before ++ closing ++ after) ↔ LeavesOpen after := by
  have hopening : ∀ cs, '\x7d' ∈ cs → ¬ ∃ inside, cs = opening ++ inside ∧ '\x7d' ∉ inside := by
    rintro _ hmem ⟨inside, rfl, hcloses⟩
    simp [opening, hcloses] at hmem
  induction before with
  | nil =>
    rw [List.nil_append, closing, List.cons_append, List.cons_append, List.nil_append, leavesOpen_cons_iff,
      leavesOpen_cons_iff, or_iff_right (hopening _ (by simp)), or_iff_right (hopening _ (by simp))]
  | cons c before ih =>
    rw [List.cons_append, List.cons_append, leavesOpen_cons_iff, or_iff_right (hopening _ (by simp [closing]))]
    exact ih

/-- Where no marker is read before a marker, no opening begins there, or the marker would close it. -/
theorem leavesOpen_cons_iff_of_unread {inside : List Char} (hinside : IsInside inside) {c : Char}
    {cs after : List Char} (h : insideMarker? (c :: cs ++ (opening ++ inside ++ closing) ++ after) = none) :
    LeavesOpen (c :: cs) ↔ LeavesOpen cs := by
  rw [leavesOpen_cons_iff]
  refine or_iff_right ?_
  rintro ⟨behind, hbehind, hcloses⟩
  have hread : insideMarker? (c :: cs ++ (opening ++ inside ++ closing) ++ after) =
      some (behind ++ opening ++ inside) := by
    refine insideMarker?_eq_some_iff.mpr ⟨by simp [opening], ?_, after, by simp [hbehind]⟩
    simp [opening, hcloses, hinside.not_closes]
  cases h.symm.trans hread

/-! ## Expansion around a marker -/

/-- The characters of content with its markers expanded. -/
def expansion (partials : List (String × String)) (cs : List Char) : List Char :=
  (segmentsFrom 0 cs).flatMap (Segment.expansion partials)

variable {partials : List (String × String)}

theorem toList_expanded_eq_expansion (content : String) :
    (expanded content partials).toList = expansion partials content.toList :=
  toList_expanded content partials

@[simp] theorem expansion_nil : expansion partials [] = [] := rfl

theorem segmentsFrom_eq_drop (skip : Nat) (cs : List Char) :
    segmentsFrom skip cs = segmentsFrom 0 (cs.drop skip) := by
  induction cs generalizing skip with
  | nil => simp [segmentsFrom]
  | cons c cs ih =>
    cases skip with
    | zero => rfl
    | succ skip => exact ih skip

theorem expansion_cons {c : Char} {cs : List Char} (h : insideMarker? (c :: cs) = none) :
    expansion partials (c :: cs) = c :: expansion partials cs := by
  rw [expansion, segmentsFrom, h, List.flatMap_cons]
  rfl

/-- The characters behind the marker that a text begins with are expanded by themselves. -/
theorem expansion_of_insideMarker? {inside rest : List Char}
    (h : insideMarker? (opening ++ inside ++ closing ++ rest) = some inside) :
    expansion partials (opening ++ inside ++ closing ++ rest) =
      (Segment.marker inside).expansion partials ++ expansion partials rest := by
  have hdrop : ('\x7b' :: '>' :: (inside ++ closing ++ rest)).drop (inside.length + 4) = rest := by
    rw [List.drop_succ_cons, List.drop_succ_cons,
      show inside.length + 2 = (inside ++ closing).length by simp [closing], List.drop_left]
  simp only [opening, List.cons_append, List.nil_append] at h ⊢
  rw [expansion, segmentsFrom, h, List.flatMap_cons, segmentsFrom_eq_drop, hdrop]
  rfl

/-- What holds of texts without characters, and of a text if it does behind the marker, or else the character,
that it begins with, holds of all. -/
theorem scan_induction {motive : List Char → Prop} (nil : motive [])
    (marker : ∀ inside rest, insideMarker? (opening ++ inside ++ closing ++ rest) = some inside → motive rest →
      motive (opening ++ inside ++ closing ++ rest))
    (char : ∀ c cs, insideMarker? (c :: cs) = none → motive cs → motive (c :: cs)) (cs : List Char) :
    motive cs := by
  induction hlength : cs.length using Nat.strong_induction_on generalizing cs with
  | _ n ih =>
    cases cs with
    | nil => exact nil
    | cons c tail =>
      rw [List.length_cons] at hlength
      cases hread : insideMarker? (c :: tail) with
      | none => exact char c tail hread (ih tail.length (by omega) tail rfl)
      | some inside =>
        obtain ⟨rest, hrest⟩ := eq_of_insideMarker? hread
        have hshorter : rest.length < n := by
          have hsplit := congrArg List.length hrest
          simp only [opening, List.length_append, List.length_cons] at hsplit
          omega
        rw [hrest] at hread ⊢
        exact marker inside rest hread (ih rest.length hshorter rest rfl)

/-- Without closing braces there is nothing to expand. -/
theorem expansion_of_not_closes {cs : List Char} (h : '\x7d' ∉ cs) : expansion partials cs = cs := by
  induction cs with
  | nil => rfl
  | cons c cs ih =>
    rw [expansion_cons (insideMarker?_of_not_closes h), ih fun hmem => h (List.mem_cons_of_mem c hmem)]

/-! ## Markers of defined partials -/

/-- A marker of a defined partial, with its text. -/
def Marks (partials : List (String × String)) (marker : List Char) (body : String) : Prop :=
  ∃ name, partials.lookup name = some body ∧ IsMarker name marker

theorem mem_nameOf {c : Char} {inside : List Char} (hc : isBlank c = false) (h : c ∈ inside) :
    c ∈ (nameOf inside).toList := by
  obtain ⟨before, after, hsplit, hbefore, hafter, -⟩ := exists_blanks_around_stripChars inside
  rw [hsplit, List.append_assoc, List.mem_append, List.mem_append] at h
  rw [nameOf, String.toList_ofList]
  rcases h with hmem | hmem | hmem
  · exact Bool.noConfusion ((hbefore c hmem).symm.trans hc)
  · exact hmem
  · exact Bool.noConfusion ((hafter c hmem).symm.trans hc)

/-- A marker that refers to a name is a marker of it. -/
theorem isMarker_nameOf (inside : List Char) :
    IsMarker (nameOf inside) (opening ++ inside ++ closing) := by
  obtain ⟨before, after, hsplit, hbefore, hafter, -⟩ := exists_blanks_around_stripChars inside
  refine ⟨before, after, fun c hc => (List.mem_append.mp hc).elim (hbefore c) (hafter c), ?_⟩
  rw [nameOf, String.toList_ofList, ← hsplit]

/-- Where no marker of a defined partial occurs nothing is expanded. -/
theorem expansion_of_unmarked {cs : List Char}
    (h : ∀ marker body, Marks partials marker body → ¬ marker <:+: cs) : expansion partials cs = cs := by
  induction cs using scan_induction with
  | nil => rfl
  | char c cs hread ih =>
    rw [expansion_cons hread, ih fun marker body hmarks hinfix =>
      h marker body hmarks (List.IsInfix.trans hinfix (List.suffix_cons c cs).isInfix)]
  | marker inside rest hread ih =>
    have hundefined : (Segment.marker inside).body? partials = none := by
      refine Option.eq_none_iff_forall_ne_some.mpr fun body hbody => ?_
      exact h _ body ⟨_, hbody, isMarker_nameOf inside⟩ (List.prefix_append _ _).isInfix
    rw [expansion_of_insideMarker? hread, Segment.expansion_of_body?_eq_none hundefined,
      ih fun marker body hmarks hinfix =>
        h marker body hmarks (List.IsInfix.trans hinfix (List.suffix_append _ _).isInfix)]
    rfl

section

variable (hnames : ∀ e ∈ partials, IsName e.1)
include hnames

theorem isName_of_lookup {name body : String} (h : partials.lookup name = some body) : IsName name :=
  hnames (name, body) (mem_of_lookup_eq_some h)

/-- A marker of a defined partial has no braces inside, and its expansion is the text of the partial. -/
theorem Marks.exists_inside {marker : List Char} {body : String} (h : Marks partials marker body) :
    ∃ inside, marker = opening ++ inside ++ closing ∧ IsInside inside ∧
      (Segment.marker inside).expansion partials = body.toList := by
  obtain ⟨name, hbody, hmarker⟩ := h
  obtain ⟨inside, rfl, hinside, rfl⟩ := hmarker.exists_inside (isName_of_lookup hnames hbody)
  exact ⟨inside, rfl, hinside, Segment.expansion_of_body? hbody⟩

/-- A marker with a brace inside refers to no partial. -/
theorem expansion_marker_of_opens {inside : List Char} (h : '\x7b' ∈ inside) :
    (Segment.marker inside).expansion partials = opening ++ inside ++ closing := by
  have hundefined : partials.lookup (nameOf inside) = none := by
    refine Option.eq_none_iff_forall_ne_some.mpr fun body hbody => ?_
    exact (isName_of_lookup hnames hbody).not_mem (by decide) (mem_nameOf (by decide) h)
  exact Segment.expansion_of_body?_eq_none hundefined

/-- A marker closes an opening that is left open before it; what stands between is nobody's name. -/
theorem expansion_append_marker_of_opens {inside behind : List Char} (hinside : IsInside inside)
    (hcloses : '\x7d' ∉ behind) (after : List Char) :
    expansion partials (opening ++ behind ++ (opening ++ inside ++ closing) ++ after) =
      opening ++ behind ++ (opening ++ inside ++ closing) ++ expansion partials after := by
  have hsplit : ∀ rest, opening ++ behind ++ (opening ++ inside ++ closing) ++ rest =
      opening ++ (behind ++ opening ++ inside) ++ closing ++ rest := by simp
  have hread : insideMarker? (opening ++ (behind ++ opening ++ inside) ++ closing ++ after) =
      some (behind ++ opening ++ inside) := by
    refine insideMarker?_eq_some_iff.mpr ⟨by simp [opening], ?_, after, rfl⟩
    simp [opening, hcloses, hinside.not_closes]
  rw [hsplit, hsplit, expansion_of_insideMarker? hread, expansion_marker_of_opens hnames (by simp [opening])]

/-- A marker of a defined partial is expanded if what stands before it leaves no opening open, and stays as it
is written if it does. In both cases the texts around it are expanded by themselves. Expansion reads what
stands before the marker first, so the induction goes as it reads that. -/
theorem expansion_append_marker {before marker : List Char} {body : String} (h : Marks partials marker body)
    (after : List Char) :
    (¬ LeavesOpen before → expansion partials (before ++ marker ++ after) =
      expansion partials before ++ body.toList ++ expansion partials after) ∧
    (LeavesOpen before → expansion partials (before ++ marker ++ after) =
      expansion partials before ++ marker ++ expansion partials after) := by
  obtain ⟨inside, rfl, hinside, hbody⟩ := h.exists_inside hnames
  induction before using scan_induction with
  | nil =>
    refine ⟨fun _ => ?_, fun hopen => absurd hopen not_leavesOpen_nil⟩
    rw [List.nil_append, expansion_of_insideMarker? (insideMarker?_marker hinside after), hbody, expansion_nil,
      List.nil_append]
  | marker read rest hread ih =>
    have hwhole := insideMarker?_append hread ((opening ++ inside ++ closing) ++ after)
    rw [List.append_assoc _ rest] at hwhole
    rw [leavesOpen_append_closing_iff, expansion_of_insideMarker? hread, List.append_assoc _ _ after,
      List.append_assoc _ rest, expansion_of_insideMarker? hwhole]
    simpa only [List.append_assoc, List.append_cancel_left_eq] using ih
  | char c cs hread ih =>
    cases hwhole : insideMarker? (c :: cs ++ (opening ++ inside ++ closing) ++ after) with
    | none =>
      rw [leavesOpen_cons_iff_of_unread hinside hwhole, expansion_cons hread]
      rw [List.cons_append, List.cons_append] at hwhole ⊢
      rw [expansion_cons hwhole]
      simpa only [List.cons_append, List.cons.injEq, true_and] using ih
    | some read =>
      rcases insideMarker?_append_marker hinside (List.cons_ne_nil c cs) hwhole with hbefore | hcloses
      · simp [hread] at hbefore
      · obtain ⟨behind, hbehind, hcloses, -⟩ := hcloses
        have hopen : LeavesOpen (c :: cs) := ⟨[], behind, hbehind, hcloses⟩
        refine ⟨fun hnot => absurd hopen hnot, fun _ => ?_⟩
        have hbefore : '\x7d' ∉ c :: cs := by simpa [hbehind, opening] using hcloses
        rw [expansion_of_not_closes hbefore, hbehind, expansion_append_marker_of_opens hnames hinside hcloses]

end

/-! ## Replacement -/

/-- Content with the markers of defined partials replaced by their texts, where markers behind a text that
keeps them stay as they are written. The texts of partials are not replaced in. -/
inductive Replaced (partials : List (String × String)) (keeps : List Char → Prop) :
    List Char → List Char → Prop
  | plain {cs : List Char} : (∀ marker body, Marks partials marker body → ¬ marker <:+: cs) →
      Replaced partials keeps cs cs
  | body {before marker after before' after' : List Char} {body : String} : Marks partials marker body →
      ¬ keeps before → Replaced partials keeps before before' → Replaced partials keeps after after' →
      Replaced partials keeps (before ++ marker ++ after) (before' ++ body.toList ++ after')
  | kept {before marker after before' after' : List Char} {body : String} : Marks partials marker body →
      keeps before → Replaced partials keeps before before' → Replaced partials keeps after after' →
      Replaced partials keeps (before ++ marker ++ after) (before' ++ marker ++ after')

/-- A marker of one of the names stands behind an opening that is left open. -/
def Hidden (names : List String) (cs : List Char) : Prop :=
  ∃ before marker after, cs = before ++ marker ++ after ∧ LeavesOpen before ∧
    ∃ name ∈ names, IsMarker name marker

theorem not_hidden_nil {names : List String} : ¬ Hidden names [] := by
  rintro ⟨before, marker, after, hsplit, hopen, -⟩
  obtain ⟨rfl, -, -⟩ : before = [] ∧ marker = [] ∧ after = [] := by simpa using hsplit.symm
  exact not_leavesOpen_nil hopen

/-- Of two markers the first one ends before the second one begins. -/
theorem append_marker_cases {inside inside' after d a : List Char} (hinside : IsInside inside)
    (hinside' : IsInside inside')
    (h : opening ++ inside ++ closing ++ after = d ++ (opening ++ inside' ++ closing) ++ a) :
    d = [] ∨ ∃ between, d = opening ++ inside ++ closing ++ between ∧
      after = between ++ (opening ++ inside' ++ closing) ++ a := by
  rcases eq_or_ne d [] with hd | hd
  · exact .inl hd
  · have hread := insideMarker?_marker hinside after
    rw [h] at hread
    rcases insideMarker?_append_marker hinside' hd hread with hfirst | ⟨behind, -, -, hsplit⟩
    · obtain ⟨between, rfl⟩ := eq_of_insideMarker? hfirst
      exact .inr ⟨between, rfl, by simpa using h⟩
    · exact absurd (by simp [hsplit, opening]) hinside.not_opens

/-- Markers that occur in a text with a marker stand before it, are it, or stand behind it. -/
theorem hidden_append_marker_iff {names : List String} (hnames : ∀ name ∈ names, IsName name) {name : String}
    (hname : name ∈ names) {before marker after : List Char} (hmarker : IsMarker name marker) :
    Hidden names (before ++ marker ++ after) ↔
      LeavesOpen before ∨ Hidden names before ∨ Hidden names after := by
  have hbehind : ∀ cs, LeavesOpen (before ++ marker ++ cs) ↔ LeavesOpen cs := by
    intro cs
    obtain ⟨inside, rfl, -⟩ := hmarker.exists_inside (hnames name hname)
    rw [← List.append_assoc before, leavesOpen_append_closing_iff]
  constructor
  · rintro ⟨b, m, a, hsplit, hopen, other, hother, hm⟩
    obtain ⟨inside, rfl, hinside, -⟩ := hmarker.exists_inside (hnames name hname)
    obtain ⟨inside', rfl, hinside', -⟩ := hm.exists_inside (hnames other hother)
    rw [List.append_assoc, List.append_assoc b, List.append_eq_append_iff] at hsplit
    rcases hsplit with ⟨d, rfl, htail⟩ | ⟨d, rfl, htail⟩
    · rw [← List.append_assoc] at htail
      rcases append_marker_cases hinside hinside' htail with rfl | ⟨between, rfl, rfl⟩
      · exact .inl (by simpa using hopen)
      · rw [← List.append_assoc, hbehind] at hopen
        exact .inr (.inr ⟨between, _, a, rfl, hopen, other, hother, hm⟩)
    · rw [← List.append_assoc] at htail
      rcases append_marker_cases hinside' hinside htail with rfl | ⟨between, rfl, -⟩
      · exact .inl (by simpa using hopen)
      · exact .inr (.inl ⟨b, _, between, by simp, hopen, other, hother, hm⟩)
  · rintro (hopen | ⟨b, m, a, rfl, hopen, hm⟩ | ⟨b, m, a, rfl, hopen, hm⟩)
    · exact ⟨before, marker, after, rfl, hopen, name, hname, hmarker⟩
    · exact ⟨b, m, a ++ marker ++ after, by simp, hopen, hm⟩
    · exact ⟨before ++ marker ++ b, m, a, by simp, (hbehind b).mpr hopen, hm⟩

theorem Marks.exists_name {marker : List Char} {body : String} (h : Marks partials marker body) :
    ∃ name ∈ partials.map Prod.fst, IsMarker name marker := by
  obtain ⟨name, hbody, hmarker⟩ := h
  exact ⟨name, List.mem_map_of_mem (mem_of_lookup_eq_some hbody), hmarker⟩

theorem exists_marks {name : String} (hname : name ∈ partials.map Prod.fst) {marker : List Char}
    (hmarker : IsMarker name marker) : ∃ body, Marks partials marker body := by
  cases hbody : partials.lookup name with
  | some body => exact ⟨body, name, hbody, hmarker⟩
  | none =>
    obtain ⟨e, he, rfl⟩ := List.mem_map.mp hname
    simpa using List.lookup_eq_none_iff.mp hbody e he

section

variable (hnames : ∀ e ∈ partials, IsName e.1)
include hnames

/-- Replacement that keeps the markers behind openings that are left open is expansion. A marker that occurs
divides the content into two shorter ones, wherever expansion begins to read. -/
theorem replaced_leavesOpen_iff {cs out : List Char} :
    Replaced partials LeavesOpen cs out ↔ out = expansion partials cs := by
  constructor
  · intro h
    induction h with
    | plain hplain => exact (expansion_of_unmarked hplain).symm
    | body hmarks hopen _ _ ihbefore ihafter =>
      rw [(expansion_append_marker hnames hmarks _).1 hopen, ihbefore, ihafter]
    | kept hmarks hopen _ _ ihbefore ihafter =>
      rw [(expansion_append_marker hnames hmarks _).2 hopen, ihbefore, ihafter]
  · rintro rfl
    induction hlength : cs.length using Nat.strong_induction_on generalizing cs with
    | _ n ih =>
      by_cases hplain : ∀ marker body, Marks partials marker body → ¬ marker <:+: cs
      · rw [expansion_of_unmarked hplain]
        exact .plain hplain
      · push Not at hplain
        obtain ⟨marker, body, hmarks, before, after, rfl⟩ := hplain
        have hpos : 0 < marker.length := by
          obtain ⟨inside, rfl, -⟩ := hmarks.exists_inside hnames
          simp [opening]
        simp only [List.length_append] at hlength
        have hbefore := ih before.length (by omega) rfl
        have hafter := ih after.length (by omega) rfl
        by_cases hopen : LeavesOpen before
        · rw [(expansion_append_marker hnames hmarks after).2 hopen]
          exact .kept hmarks hopen hbefore hafter
        · rw [(expansion_append_marker hnames hmarks after).1 hopen]
          exact .body hmarks hopen hbefore hafter

theorem isName_of_mem_map : ∀ name ∈ partials.map Prod.fst, IsName name := by
  intro name hname
  obtain ⟨e, he, rfl⟩ := List.mem_map.mp hname
  exact hnames e he

/-- Where no marker is hidden it does not matter which of the hidden ones are kept. -/
theorem Replaced.of_not_hidden {keeps keeps' : List Char → Prop} (hkeeps : ∀ cs, keeps cs → LeavesOpen cs)
    (hkeeps' : ∀ cs, keeps' cs → LeavesOpen cs) {cs out : List Char} (h : Replaced partials keeps cs out)
    (hhidden : ¬ Hidden (partials.map Prod.fst) cs) : Replaced partials keeps' cs out := by
  induction h with
  | plain hplain => exact .plain hplain
  | body hmarks hopen _ _ ihbefore ihafter =>
    obtain ⟨name, hname, hmarker⟩ := hmarks.exists_name
    rw [hidden_append_marker_iff (isName_of_mem_map hnames) hname hmarker, not_or, not_or] at hhidden
    exact .body hmarks (fun hkept => hhidden.1 (hkeeps' _ hkept)) (ihbefore hhidden.2.1) (ihafter hhidden.2.2)
  | kept hmarks hopen _ _ _ _ =>
    obtain ⟨name, hname, hmarker⟩ := hmarks.exists_name
    rw [hidden_append_marker_iff (isName_of_mem_map hnames) hname hmarker, not_or] at hhidden
    exact absurd (hkeeps _ hopen) hhidden.1

/-- Where the texts of partials are empty, content with all markers replaced is shorter than expanded content
with a hidden marker, and is never longer. Expansion keeps a hidden marker, of which an empty text is all that
replacement leaves. -/
theorem Replaced.length_le (hempty : ∀ e ∈ partials, e.2 = "") {cs out : List Char}
    (h : Replaced partials (fun _ => False) cs out) :
    out.length ≤ (expansion partials cs).length ∧
      (Hidden (partials.map Prod.fst) cs → out.length < (expansion partials cs).length) := by
  induction h with
  | @plain cs hplain =>
    rw [expansion_of_unmarked hplain]
    refine ⟨Nat.le_refl _, ?_⟩
    rintro ⟨before, marker, after, rfl, -, name, hname, hmarker⟩
    obtain ⟨body, hmarks⟩ := exists_marks hname hmarker
    exact absurd (List.infix_append before marker after) (hplain marker body hmarks)
  | @body before marker after before' after' body hmarks _ _ _ ihbefore ihafter =>
    obtain ⟨name, hname, hmarker⟩ := hmarks.exists_name
    have hbody : body = "" := by
      obtain ⟨name, hbody, -⟩ := hmarks
      exact hempty (name, body) (mem_of_lookup_eq_some hbody)
    have hpos : 0 < marker.length := by
      obtain ⟨inside, rfl, -⟩ := hmarks.exists_inside hnames
      simp [opening]
    rw [hidden_append_marker_iff (isName_of_mem_map hnames) hname hmarker]
    by_cases hopen : LeavesOpen before
    · rw [(expansion_append_marker hnames hmarks after).2 hopen]
      simp only [List.length_append, hbody, String.toList_empty, List.length_nil]
      omega
    · rw [(expansion_append_marker hnames hmarks after).1 hopen, or_iff_right hopen]
      simp only [List.length_append, hbody, String.toList_empty, List.length_nil]
      refine ⟨by omega, ?_⟩
      rintro (hhidden | hhidden)
      · have := ihbefore.2 hhidden
        omega
      · have := ihafter.2 hhidden
        omega
  | kept _ hfalse => exact hfalse.elim

end

/-- Content with given names of partials is expanded by replacing the markers of the names and keeping those
behind openings that are left open. It is the content with all markers of the names replaced, whatever the texts
of the partials are, if and only if no marker is hidden. -/
theorem replaced_expanded_iff {names : List String} (hnames : ∀ name ∈ names, IsName name) (content : String) :
    (∀ partials : List (String × String), partials.map Prod.fst = names → ∀ out,
      Replaced partials LeavesOpen content.toList out ↔ out = (expanded content partials).toList) ∧
    ((∀ partials : List (String × String), partials.map Prod.fst = names → ∀ out,
      Replaced partials (fun _ => False) content.toList out ↔ out = (expanded content partials).toList) ↔
        ¬ Hidden names content.toList) := by
  have hkeys : ∀ partials : List (String × String), partials.map Prod.fst = names →
      ∀ e ∈ partials, IsName e.1 := by
    rintro partials rfl e he
    exact hnames e.1 (List.mem_map_of_mem he)
  refine ⟨fun partials hpartials out => ?_, fun h hhidden => ?_, fun hhidden partials hpartials out => ?_⟩
  · rw [replaced_leavesOpen_iff (hkeys partials hpartials), toList_expanded_eq_expansion]
  · have hpartials : (names.map (·, "")).map Prod.fst = names := by
      rw [List.map_map]
      exact List.map_id names
    have hreplaced := (h _ hpartials _).mpr rfl
    have hlength := hreplaced.length_le (hkeys _ hpartials) (by simp)
    rw [toList_expanded_eq_expansion, hpartials] at hlength
    exact Nat.lt_irrefl _ (hlength.2 hhidden)
  · rw [toList_expanded_eq_expansion, ← replaced_leavesOpen_iff (hkeys partials hpartials)]
    rw [← hpartials] at hhidden
    exact ⟨fun h => h.of_not_hidden (hkeys partials hpartials) (fun _ hfalse => hfalse.elim) (fun _ => id) hhidden,
      fun h => h.of_not_hidden (hkeys partials hpartials) (fun _ => id) (fun _ hfalse => hfalse.elim) hhidden⟩

theorem replaced_expanded_spacedName :
    (∀ name ∈ ["p"], IsName name) ∧
    ∀ partials : List (String × String), partials.map Prod.fst = ["p"] → ∀ out,
      Replaced partials (fun _ => False) "\x7b\x7b> p \x7d\x7d".toList out ↔
        out = (expanded "\x7b\x7b> p \x7d\x7d" partials).toList := by
  have hnames : ∀ name ∈ ["p"], IsName name := by
    rintro name hname
    obtain rfl := List.mem_singleton.mp hname
    exact ⟨'p', [], rfl, rfl, by simp⟩
  have hblank : isBlank ' ' = true := rfl
  have hmarker : IsMarker "p" (opening ++ [' ', 'p', ' '] ++ closing) :=
    ⟨[' '], [' '], by simpa using hblank, rfl⟩
  have hhidden : ¬ Hidden ["p"] "\x7b\x7b> p \x7d\x7d".toList := by
    rw [show "\x7b\x7b> p \x7d\x7d".toList = [] ++ (opening ++ [' ', 'p', ' '] ++ closing) ++ [] from rfl,
      hidden_append_marker_iff hnames List.mem_cons_self hmarker]
    simp [not_leavesOpen_nil, not_hidden_nil]
  exact ⟨hnames, (replaced_expanded_iff hnames _).2.mpr hhidden⟩

/-- An opening that is not closed keeps the marker behind it from being replaced. -/
theorem not_replaced_expanded :
    IsName "p" ∧ ¬ Replaced [("p", "x")] (fun _ => False) "\x7b\x7b>\x7b\x7b>p\x7d\x7d".toList
      (expanded "\x7b\x7b>\x7b\x7b>p\x7d\x7d" [("p", "x")]).toList := by
  have hmarker : Marks [("p", "x")] (opening ++ ['p'] ++ closing) "x" :=
    ⟨"p", rfl, [], [], by simp, rfl⟩
  have hkept : 'x' ∉ (expanded "\x7b\x7b>\x7b\x7b>p\x7d\x7d" [("p", "x")]).toList := by decide
  refine ⟨⟨'p', [], rfl, rfl, by simp⟩, fun h => ?_⟩
  generalize hcs : "\x7b\x7b>\x7b\x7b>p\x7d\x7d".toList = cs at h
  generalize (expanded "\x7b\x7b>\x7b\x7b>p\x7d\x7d" [("p", "x")]).toList = out at h hkept
  cases h with
  | plain hplain => exact hplain _ _ hmarker ⟨opening, [], by rw [← hcs]; rfl⟩
  | body hmarks =>
    obtain ⟨name, hbody, -⟩ := hmarks
    obtain ⟨-, rfl⟩ := Prod.mk.inj (List.mem_singleton.mp (mem_of_lookup_eq_some hbody))
    exact hkept (by simp)
  | kept _ hfalse => exact hfalse

end TemplateRules.Partials
