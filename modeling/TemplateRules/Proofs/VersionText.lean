import TemplateRules.Proofs.LowerCase
import TemplateRules.Proofs.Prerelease

/-!
# The text of a version

A version that has been read is written with three numbers and the identifiers of its tag. The text tells the
version, since numbers and identifiers are the components between its separators again, and since lower case keeps
what it has written. What reading does first, though, is to strip the text of the blanks at its ends, and it does so
before it cuts off build metadata and drops identifiers. An identifier in front of these may end with a blank, which
then stands at the end of the text and is lost when the text is read. That is the only loss.

## Main definitions

* `Version.IsName`: the identifiers that versions hold when they have been read
* `Version.numerals`: the numbers of a version as its text writes them
* `Version.TrailsOff`: the texts whose last identifier ends with a blank

## Main results

* `Version.components_text`: the components of a version's text
* `Version.text_inj`, `Version.key_inj`: a version is told by its text, and by what it is compared by
* `Version.ofText_text_concat`: what is read of a version's text
* `Version.text_is_normal_iff`: the text of a version is a normal form, unless the version trails off
-/

namespace TemplateRules

open Text

namespace Text

variable {c : Char} {cs word : List Char}

/-- A stretch between separators has characters of the text that are no separators. -/
theorem mem_of_mem_splitOn {p : Char → Bool} (hword : word ∈ splitOn p cs) (hc : c ∈ word) :
    c ∈ cs ∧ p c = false := by
  induction cs generalizing word with
  | nil =>
    obtain rfl : word = [] := by simpa [splitOn] using hword
    simp at hc
  | cons d cs ih =>
    rw [splitOn] at hword
    split at hword
    · rcases List.mem_cons.mp hword with rfl | hword
      · simp at hc
      · exact (ih hword hc).imp_left (List.mem_cons_of_mem d)
    · rename_i hd
      obtain ⟨first, rest, hsplit⟩ := List.exists_cons_of_ne_nil (splitOn_ne_nil p cs)
      rw [hsplit] at hword ih
      rcases List.mem_cons.mp hword with rfl | hword
      · rcases List.mem_cons.mp hc with rfl | hc
        · exact ⟨List.mem_cons_self, by simpa using hd⟩
        · exact (ih List.mem_cons_self hc).imp_left (List.mem_cons_of_mem d)
      · exact (ih (List.mem_cons_of_mem _ hword) hc).imp_left (List.mem_cons_of_mem d)

/-- Stripping a text that neither begins with a blank nor has blanks in front of its last mark strips what stands
behind the mark. -/
theorem stripChars_append_cons {mark : Char} {front : List Char} (hne : front ≠ [])
    (hhead : ∀ c ∈ front.head?, isBlank c = false) (hmark : isBlank mark = false) :
    stripChars (front ++ mark :: word) = front ++ mark :: word.rdropWhile isBlank := by
  have hsplit := @List.rdropWhile_append_rtakeWhile _ isBlank word
  have hlast : ∀ c ∈ (front ++ mark :: word.rdropWhile isBlank).getLast?, isBlank c = false := by
    intro c hc
    have hkept : ∀ c ∈ (word.rdropWhile isBlank).getLast?, isBlank c = false := by
      rw [List.rdropWhile, List.getLast?_reverse]
      exact head?_dropWhile_isBlank
    rw [List.getLast?_append, List.getLast?_cons] at hc
    cases hword : (word.rdropWhile isBlank).getLast? with
    | none => simp_all
    | some d => simp_all
  have hstrip := @stripChars_append [] (front ++ mark :: word.rdropWhile isBlank) (word.rtakeWhile isBlank)
    (by simp) (fun c hc => List.mem_rtakeWhile_imp hc) (by simp) (by rwa [List.head?_append_of_ne_nil _ hne]) hlast
  rwa [List.nil_append, List.append_assoc, List.cons_append, hsplit] at hstrip

end Text

namespace Version

variable {v w : Version} {s name : String} {c : Char}

/-! ## Numbers -/

theorem decimalNumber_toDigits (n : Nat) : decimalNumber (Nat.toDigits 10 n) = n := by
  have hdigits : ∀ c ∈ Nat.toDigits 10 n, c.isDigit = true :=
    fun _ hc => Nat.isDigit_of_mem_toDigits (by decide) (by decide) hc
  rw [decimalNumber_eq_ofDigitChars hdigits, Nat.ofDigitChars_ten_toDigits]

theorem leadingNumber_numeral (n : Nat) : leadingNumber (numeral n).chars = n := by
  have htake : (Nat.toDigits 10 n).takeWhile isDecimal = Nat.toDigits 10 n :=
    List.takeWhile_eq_self_iff.mpr fun c hc =>
      isDecimal_of_isPlainDigit (Nat.isDigit_of_mem_toDigits (by decide) (by decide) hc)
  rw [leadingNumber, leadingDigits, numeral, htake, decimalNumber_toDigits]

/-- The numbers of a version as its text writes them. -/
def numerals (v : Version) : List (List Char) := [v.major, v.minor, v.patch].map fun n => (numeral n).chars

theorem ofText_of_components {ids : List (List Char)}
    (h : components (bareText (stripChars s.toList)) = v.numerals ++ ids) :
    ofText s = { v with tag := names ids } := by
  rw [ofText, h, tagOf_append (by simp [numerals])]
  simp [numerals, numberAt, leadingNumber_numeral]

/-! ## Identifiers -/

/-- A character that may stand in a component: it neither ends the component nor begins build metadata. -/
def isPartChar (c : Char) : Bool := !(c == '.' || c == '-') && c != '+'

/-- An identifier as it has been read: a part of a component in lower case, not all of digits. -/
structure IsName (name : String) : Prop where
  isPart : ∀ c ∈ name.toList, isPartChar c = true
  settled : ∀ c ∈ name.toList, IsSettled c
  not_digits : ∃ c ∈ name.toList, isDigit c = false

/-- The marks of version texts are no letters. -/
theorem isPartChar_of_letter (h : isCaseless c = false) : isPartChar c = true := by
  have hne : ∀ mark : Char, isCaseless mark = true → c ≠ mark := by
    rintro mark hmark rfl
    exact Bool.noConfusion (h.symm.trans hmark)
  simp [isPartChar, hne '.' (by decide), hne '-' (by decide), hne '+' (by decide)]

theorem IsName.ne_nil (h : IsName name) : name.toList ≠ [] := by
  obtain ⟨c, hc, -⟩ := h.not_digits
  exact List.ne_nil_of_mem hc

theorem IsName.isAllDigits_eq_false (h : IsName name) : isAllDigits name.toList = false := by
  obtain ⟨c, hc, hdigit⟩ := h.not_digits
  rw [isAllDigits, Bool.and_eq_false_iff, List.all_eq_false]
  exact .inr ⟨c, hc, by simp [hdigit]⟩

/-- Names are kept as they are when they are read. -/
theorem names_map_toList {tag : List String} (h : ∀ t ∈ tag, IsName t) : names (tag.map String.toList) = tag := by
  induction tag with
  | nil => rfl
  | cons t tag ih =>
    rw [List.forall_mem_cons] at h
    rw [List.map_cons, names_cons_of_name h.1.ne_nil h.1.isAllDigits_eq_false, ih h.2, lowerChars,
      lowerFrom_eq_self h.1.settled, String.ofList_toList]

/-- What is left of an identifier is read as the identifier only if it is all of it. -/
theorem eq_of_names_eq {p : List Char} (hsettled : ∀ c ∈ name.toList, IsSettled c) (hp : p <+: name.toList)
    (h : names [p] = [name]) : p = name.toList := by
  by_cases hkept : p ≠ [] ∧ isAllDigits p = false
  · rw [names_cons_of_name hkept.1 hkept.2, lowerChars, lowerFrom_eq_self fun c hc => hsettled c (hp.subset hc)] at h
    rw [← (List.cons.inj h).1, String.toList_ofList]
  · have hnone : names [p] = [] := names_eq_nil_iff.mpr (by simpa [or_iff_not_imp_left] using hkept)
    simp [hnone] at h

/-- The identifiers that have been read are names. -/
theorem isName_of_mem_tag (h : name ∈ (ofText s).tag) : IsName name := by
  obtain ⟨p, hp, rfl⟩ := List.mem_map.mp h
  obtain ⟨hp, hkept⟩ := List.mem_filter.mp hp
  have hmem := List.mem_of_mem_drop hp
  have hpart : ∀ c ∈ p, isPartChar c = true := by
    intro c hc
    obtain ⟨hbare, hseparator⟩ := mem_of_mem_splitOn hmem hc
    have hplus : c ≠ '+' := by simpa using List.mem_takeWhile_imp hbare
    simp [isPartChar, hseparator, hplus]
  refine ⟨fun c hc => ?_, fun c hc => ?_, ?_⟩
  · rw [String.toList_ofList] at hc
    rcases mem_or_letter_of_mem_lowerChars hc with hc | hletter
    · exact hpart c hc
    · exact isPartChar_of_letter hletter
  · rw [String.toList_ofList] at hc
    exact isSettled_of_mem_lowerChars hc
  · obtain ⟨c, hc, hdigit⟩ : ∃ c ∈ p, isDigit c = false := by
      simp only [isAllDigits, Bool.and_eq_true, Bool.not_eq_true', Bool.and_eq_false_iff, List.all_eq_false] at hkept
      simpa using hkept.2.resolve_left (by simp [hkept.1])
    rw [String.toList_ofList]
    obtain ⟨d, hd, rfl | ⟨-, hletter⟩⟩ := @exists_mem_lowerFrom _ [] _ hc
    · exact ⟨d, hd, hdigit⟩
    · exact ⟨d, hd, (isBlank_isDigit_of_letter hletter).2⟩

/-- Characters that may stand in a component are one component. -/
theorem components_of_isPart {cs : List Char} (h : ∀ c ∈ cs, isPartChar c = true) : components cs = [cs] := by
  refine components_of_notMem fun c hc => ?_
  have hpart := h c hc
  simp only [isPartChar, Bool.and_eq_true, Bool.not_eq_true'] at hpart
  exact hpart.1

/-! ## Texts -/

/-- A version with another tag. -/
def withTag (v : Version) (tag : List String) : Version := { v with tag := tag }

/-- The mark in front of an identifier that stands behind others. -/
def markBehind (front : List String) : Char := if front.isEmpty then '-' else '.'

theorem markBehind_spec (front : List String) :
    (markBehind front == '.' || markBehind front == '-') = true ∧ isBlank (markBehind front) = false ∧
      '+' ≠ markBehind front := by
  unfold markBehind
  split <;> decide

section Texts

variable (v) {tag front : List String} {last : String}

/-- A version without a tag is written as numbers with dots between them. -/
theorem toList_text_nil : (v.withTag []).text.toList =
    (numeral v.major).chars ++ Stretch.dotted [numeral v.minor, numeral v.patch] := by
  have hdot : (toString ".").toList = ['.'] := rfl
  simp [text, withTag, numeral, hdot]

/-- The last identifier stands behind a mark at the end of the text. -/
theorem toList_text_concat (front : List String) (last : String) :
    (v.withTag (front ++ [last])).text.toList = (v.withTag front).text.toList ++ markBehind front :: last.toList := by
  cases front with
  | nil => simp [text, withTag, markBehind, joinWith]
  | cons t ts =>
    have hjoin : joinWith "." (t :: (ts ++ [last])) = joinWith "." (t :: ts) ++ "." ++ last := by
      rw [joinWith, ← List.cons_append, String.intercalate_append_of_ne_nil (by simp) (by simp),
        String.intercalate_singleton]
      rfl
    simp [text, withTag, markBehind, hjoin]

/-- The components of a version's text are its numbers and its identifiers. An identifier is added at the end
of the text, behind a mark that ends the component in front. -/
theorem components_text (h : ∀ t ∈ tag, IsName t) :
    components (v.withTag tag).text.toList = v.numerals ++ tag.map String.toList := by
  induction tag using List.reverseRecOn with
  | nil =>
    rw [toList_text_nil, components_append_dotted (by decide) (by decide)]
    rfl
  | append_singleton front last ih =>
    simp only [List.mem_append, List.mem_singleton, or_imp, forall_and, forall_eq] at h
    rw [toList_text_concat, components_append_cons (markBehind_spec front).1, ih h.1,
      components_of_isPart h.2.isPart, List.map_append, ← List.append_assoc, List.map_singleton]

/-- A version's text begins with a number. -/
theorem exists_text_eq_append (tag : List String) :
    ∃ rest, (v.withTag tag).text.toList = (numeral v.major).chars ++ rest := by
  induction tag using List.reverseRecOn with
  | nil => exact ⟨_, v.toList_text_nil⟩
  | append_singleton front last ih =>
    obtain ⟨rest, hrest⟩ := ih
    exact ⟨_, by rw [toList_text_concat, hrest, List.append_assoc]⟩

theorem text_ne_nil (tag : List String) : (v.withTag tag).text.toList ≠ [] := by
  obtain ⟨rest, hrest⟩ := v.exists_text_eq_append tag
  rw [hrest]
  exact List.append_ne_nil_of_left_ne_nil (numeral v.major).ne_nil _

theorem head?_text (tag : List String) :
    ∀ c ∈ (v.withTag tag).text.toList.head?, isBlank c = false ∧ c ≠ 'v' ∧ c ≠ 'V' := by
  obtain ⟨rest, hrest⟩ := v.exists_text_eq_append tag
  rw [hrest, List.head?_append_of_ne_nil _ (numeral v.major).ne_nil]
  intro c hc
  have hdecimal : isDecimal c = true := isDecimal_of_isPlainDigit
    (Nat.isDigit_of_mem_toDigits (by decide) (by decide) (List.mem_of_mem_head? hc))
  exact ⟨isBlank_of_isDecimal hdecimal, ne_of_isDecimal hdecimal (by decide), ne_of_isDecimal hdecimal (by decide)⟩

theorem plus_notMem_text (h : ∀ t ∈ tag, IsName t) : '+' ∉ (v.withTag tag).text.toList := by
  induction tag using List.reverseRecOn with
  | nil =>
    have hword : isWord '+' ≠ true := by decide
    rw [toList_text_nil, List.mem_append, not_or]
    refine ⟨fun hmem => hword ((numeral v.major).inClass _ hmem), fun hmem => ?_⟩
    exact hword ((Stretch.mem_dotted hmem).resolve_left (by decide))
  | append_singleton front last ih =>
    simp only [List.mem_append, List.mem_singleton, or_imp, forall_and, forall_eq] at h
    rw [toList_text_concat, List.mem_append, List.mem_cons, not_or, not_or]
    exact ⟨ih h.1, (markBehind_spec front).2.2, fun hmem => absurd (h.2.isPart _ hmem) (by decide)⟩

/-- Without a letter in front and without build metadata a text is bare. -/
theorem bareText_eq_self {cs : List Char} (hhead : ∀ c ∈ cs.head?, c ≠ 'v' ∧ c ≠ 'V') (hplus : '+' ∉ cs) :
    bareText cs = cs := by
  have htake : cs.takeWhile (· != '+') = cs :=
    List.takeWhile_eq_self_iff.mpr fun c hc => bne_iff_ne.mpr fun h => hplus (h ▸ hc)
  cases cs with
  | nil => rfl
  | cons c cs =>
    obtain ⟨hsmall, hcapital⟩ := hhead c rfl
    simpa [bareText, hsmall, hcapital] using htake

/-! ## Reading texts of versions -/

/-- A version without a tag is read as it was. -/
theorem ofText_text_nil : ofText (v.withTag []).text = v.withTag [] := by
  have hstrip : stripChars (v.withTag []).text.toList = (v.withTag []).text.toList := by
    refine stripChars_eq_self fun c hc => ?_
    rw [toList_text_nil, List.mem_append] at hc
    rcases hc with hc | hc
    · exact isBlank_of_isWord ((numeral v.major).inClass c hc)
    · rcases Stretch.mem_dotted hc with rfl | hc
      · decide
      · exact isBlank_of_isWord hc
  refine @ofText_of_components v _ [] ?_
  rw [hstrip, bareText_eq_self (fun c hc => (v.head?_text [] c hc).2) (v.plus_notMem_text (by simp)),
    v.components_text (by simp), List.map_nil]

/-- A version with a tag is read without the blanks at the end of its last identifier. -/
theorem ofText_text_concat (hfront : ∀ t ∈ front, IsName t) (hlast : IsName last) :
    ofText (v.withTag (front ++ [last])).text =
      v.withTag (front ++ names [last.toList.rdropWhile isBlank]) := by
  obtain ⟨hseparator, hmark, hplus⟩ := markBehind_spec front
  have hpart : ∀ c ∈ last.toList.rdropWhile isBlank, isPartChar c = true := fun c hc =>
    hlast.isPart c ((List.rdropWhile_prefix isBlank _).subset hc)
  have hbare : '+' ∉ (v.withTag front).text.toList ++ markBehind front :: last.toList.rdropWhile isBlank := by
    rw [List.mem_append, List.mem_cons, not_or, not_or]
    exact ⟨v.plus_notMem_text hfront, hplus, fun hmem => absurd (hpart _ hmem) (by decide)⟩
  have hhead : ∀ c ∈ ((v.withTag front).text.toList ++ markBehind front :: last.toList.rdropWhile isBlank).head?,
      isBlank c = false ∧ c ≠ 'v' ∧ c ≠ 'V' := by
    rw [List.head?_append_of_ne_nil _ (v.text_ne_nil front)]
    exact v.head?_text front
  have hread : ofText (v.withTag (front ++ [last])).text =
      v.withTag (names (front.map String.toList ++ [last.toList.rdropWhile isBlank])) := by
    refine ofText_of_components ?_
    have hstrip := @stripChars_append_cons last.toList _ _ (v.text_ne_nil front)
      (fun c hc => (v.head?_text front c hc).1) hmark
    rw [toList_text_concat, hstrip, bareText_eq_self (fun c hc => (hhead c hc).2) hbare,
      components_append_cons hseparator, v.components_text hfront, components_of_isPart hpart,
      List.append_assoc]
  rw [hread, names_append, names_map_toList hfront]

end Texts

/-! ## Versions and their texts -/

section Names

variable (hv : ∀ t ∈ v.tag, IsName t)
include hv

/-- A version's text is read as the version exactly if its last identifier does not end with a blank. -/
theorem ofText_text_eq_iff :
    ofText v.text = v ↔ ∀ last ∈ v.tag.getLast?, ∀ c ∈ last.toList.getLast?, isBlank c = false := by
  rcases List.eq_nil_or_concat v.tag with htag | ⟨front, last, htag⟩
  · have hread := v.ofText_text_nil
    rw [← htag] at hread
    exact ⟨fun _ => by simp [htag], fun _ => hread⟩
  · rw [List.concat_eq_append] at htag
    have hnames : (∀ t ∈ front, IsName t) ∧ IsName last := by simpa [htag, or_imp, forall_and] using hv
    have hread := v.ofText_text_concat hnames.1 hnames.2
    rw [← htag] at hread
    have hstripped : last.toList.rdropWhile isBlank = last.toList ↔
        ∀ c ∈ last.toList.getLast?, isBlank c = false := by
      rw [List.rdropWhile_eq_self_iff, List.getLast?_eq_getLast_of_ne_nil hnames.2.ne_nil]
      simp [hnames.2.ne_nil]
    calc ofText v.text = v
      _ ↔ v.withTag (front ++ names [last.toList.rdropWhile isBlank]) = v.withTag (front ++ [last]) := by
        rw [← hread, ← htag]
        rfl
      _ ↔ names [last.toList.rdropWhile isBlank] = [last] := by simp [withTag]
      _ ↔ last.toList.rdropWhile isBlank = last.toList := by
        refine ⟨eq_of_names_eq hnames.2.settled (List.rdropWhile_prefix isBlank _), fun h => ?_⟩
        rw [h, ← List.map_singleton, names_map_toList (by simpa using hnames.2)]
      _ ↔ ∀ l ∈ v.tag.getLast?, ∀ c ∈ l.toList.getLast?, isBlank c = false := by
        rw [hstripped, htag]
        simp

variable (hw : ∀ t ∈ w.tag, IsName t)
include hw

/-- A version is told by its text. -/
theorem text_inj : v.text = w.text ↔ v = w := by
  refine ⟨fun h => ?_, fun h => h ▸ rfl⟩
  have hcomponents : v.numerals ++ v.tag.map String.toList = w.numerals ++ w.tag.map String.toList :=
    calc v.numerals ++ v.tag.map String.toList
      _ = components v.text.toList := (v.components_text hv).symm
      _ = components w.text.toList := by rw [h]
      _ = w.numerals ++ w.tag.map String.toList := w.components_text hw
  obtain ⟨hnumerals, htag⟩ := List.append_inj hcomponents rfl
  have hnumbers := congrArg (List.map leadingNumber) hnumerals
  simp only [numerals, List.map_cons, List.map_nil, leadingNumber_numeral, List.cons.injEq, and_true] at hnumbers
  have htag' := List.map_injective_iff.mpr (fun _ _ => String.toList_inj.mp) htag
  cases v
  cases w
  simp_all

/-- A version is told by what it is compared by. -/
theorem key_inj : v.key = w.key ↔ v = w := by
  have htext : ∀ {tag : List String}, (∀ t ∈ tag, IsName t) →
      tag.map Identifier.ofText = tag.map Identifier.text := by
    intro tag h
    refine List.map_congr_left fun t ht => ?_
    rw [Identifier.ofText, (h t ht).isAllDigits_eq_false]
    rfl
  refine ⟨fun h => ?_, fun h => h ▸ rfl⟩
  simp only [key, Key.mk.injEq] at h
  obtain ⟨hmajor, hminor, hpatch, -, htag⟩ := h
  rw [htext hv, htext hw] at htag
  have htag' := List.map_injective_iff.mpr (fun _ _ => Identifier.text.inj) htag
  cases v
  cases w
  simp_all

end Names

/-! ## The normal form -/

/-- The identifiers that a text keeps for its tag, as they are written. -/
def writtenNames (s : String) : List (List Char) :=
  ((components (bareText (stripChars s.toList))).drop 3).filter fun p => !p.isEmpty && !isAllDigits p

/-- The last identifier that a text keeps for its tag ends with a blank. -/
def TrailsOff (s : String) : Prop := ∃ p ∈ (writtenNames s).getLast?, ∃ c ∈ p.getLast?, isBlank c = true

/-- Lower case leaves the blank at the end of the last identifier, and brings none. -/
theorem trailsOff_iff : TrailsOff s ↔ ∃ t ∈ (ofText s).tag.getLast?, ∃ c ∈ t.toList.getLast?, isBlank c = true := by
  have htag : (ofText s).tag = (writtenNames s).map fun p => String.ofList (lowerChars p) := rfl
  have hlast : ∀ p : List Char, (∃ c, (lowerChars p).getLast? = some c ∧ isBlank c = true) ↔
      ∃ c, p.getLast? = some c ∧ isBlank c = true := by
    intro p
    cases hp : p.getLast? with
    | none =>
      obtain rfl := List.getLast?_eq_none_iff.mp hp
      simp [lowerChars, lowerFrom]
    | some c =>
      obtain ⟨d, hd, hcases⟩ := @getLast?_lowerFrom c [] p hp
      have hblank : isBlank d = isBlank c := by
        rcases hcases with rfl | ⟨hc, hletter⟩
        · rfl
        · rw [(isBlank_isDigit_of_letter hc).1, (isBlank_isDigit_of_letter hletter).1]
      simp [lowerChars, Option.mem_def.mp hd, hblank]
  rw [TrailsOff, htag, List.getLast?_map]
  simp [hlast]

/-- **The text of a version is a normal form, unless the version trails off.** Reading the text again and writing
what is read gives the text, and the text is the same version as the one that it was made of, exactly if no blank
stands at the end of the last identifier, in front of build metadata or of identifiers that are dropped. -/
theorem text_is_normal_iff (s : String) :
    ((ofText (ofText s).text).text = (ofText s).text ↔ ¬ TrailsOff s) ∧
      (order s (ofText s).text = .eq ↔ ¬ TrailsOff s) := by
  have hnames : ∀ {s t : String}, t ∈ (ofText s).tag → IsName t := isName_of_mem_tag
  have hread : ofText (ofText s).text = ofText s ↔ ¬ TrailsOff s := by
    rw [ofText_text_eq_iff fun _ => hnames, trailsOff_iff]
    simp
  rw [text_inj (fun _ => hnames) fun _ => hnames, order_eq_eq_iff, key_inj (fun _ => hnames) fun _ => hnames,
    @eq_comm _ (ofText s), hread]
  exact ⟨Iff.rfl, Iff.rfl⟩

/-- The identifier in front of the build metadata ends with a space. -/
theorem text_not_normal_before_build :
    ¬ (((ofText (ofText "1.0.0-a +b").text).text = (ofText "1.0.0-a +b").text) ∧
      order "1.0.0-a +b" (ofText "1.0.0-a +b").text = .eq) := by
  decide +kernel

end Version

end TemplateRules
