import TemplateRules.Digest.Fingerprint
import TemplateRules.Proofs.DigestParts
import TemplateRules.Proofs.ValueText

/-!
# What the text of a map tells

The text of a map of texts holds one line `name=value` for each entry, in the order of the names. Where no
name holds an equality sign and neither a name nor a value a line break, the text tells the lines and each
line its entry. A value with a line break may pass for two entries.

## Main definitions

* `Digest.Separable`: maps whose lines can be told apart

## Main results

* `Digest.joinWith_inj`: lines that are joined can be told apart
* `Digest.lookup_eq_of_mappingText_eq`: equal texts of separable maps have equal values under every name
* `Digest.exists_mappingText_eq`, `Digest.value_eq_of_mappingText_eq`: maps that differ in one value only have
  texts that differ in this value only
-/

namespace TemplateRules.Digest

open Text (append_cons_inj joinWith)

/-- Maps in which no name holds an equality sign and neither a name nor a value a line break. -/
def Separable (entries : Table String) : Prop :=
  ∀ e ∈ entries, '=' ∉ e.1.toList ∧ '\n' ∉ e.1.toList ∧ '\n' ∉ e.2.toList

/-- The line of an entry. -/
def line (e : String × String) : String := e.1 ++ "=" ++ e.2

theorem mappingText_eq (entries : Table String) :
    mappingText entries = joinWith "\n" ((Table.sorted entries).map line) := rfl

theorem toList_line (e : String × String) : (line e).toList = e.1.toList ++ '=' :: e.2.toList := by
  simp [line]

theorem line_inj {e f : String × String} (he : '=' ∉ e.1.toList) (hf : '=' ∉ f.1.toList)
    (h : line e = line f) : e = f := by
  have hlines := congrArg String.toList h
  rw [toList_line, toList_line] at hlines
  obtain ⟨hname, hvalue⟩ := append_cons_inj he hf hlines
  exact Prod.ext (String.toList_inj.mp hname) (String.toList_inj.mp hvalue)

theorem map_line_inj {as bs : Table String} (has : ∀ a ∈ as, '=' ∉ a.1.toList)
    (hbs : ∀ b ∈ bs, '=' ∉ b.1.toList) (h : as.map line = bs.map line) : as = bs := by
  induction as generalizing bs with
  | nil => simpa using h.symm
  | cons a as ih =>
    cases bs with
    | nil => simp at h
    | cons b bs =>
      rw [List.map_cons, List.map_cons, List.cons.injEq] at h
      rw [List.forall_mem_cons] at has hbs
      rw [line_inj has.1 hbs.1 h.1, ih has.2 hbs.2 h.2]

/-- A text that stands on one line: it is not empty and has no line break. -/
def OneLine (text : String) : Prop := text ≠ "" ∧ '\n' ∉ text.toList

/-- Joined lines are split into the lines again. -/
theorem splitOn_joinWith {lines : List String} (hlines : ∀ l ∈ lines, OneLine l) (hne : lines ≠ []) :
    (joinWith "\n" lines).toList.splitOn '\n' = lines.map String.toList := by
  rw [joinWith, String.toList_intercalate]
  refine List.splitOn_intercalate '\n' (fun l hl => ?_) (by simpa using hne)
  obtain ⟨c, hc, rfl⟩ := List.mem_map.mp hl
  exact (hlines c hc).2

/-- Joined lines are no empty text, unless there are none. -/
theorem eq_nil_of_joinWith_eq {lines : List String} (hlines : ∀ l ∈ lines, OneLine l)
    (h : joinWith "\n" [] = joinWith "\n" lines) : lines = [] := by
  by_contra hne
  have hempty : lines.map String.toList = [[]] := by
    rw [← splitOn_joinWith hlines hne, ← h]
    rfl
  obtain ⟨c, rfl, hc⟩ := List.map_eq_singleton_iff.mp hempty
  exact (hlines c List.mem_cons_self).1 (String.toList_eq_nil_iff.mp hc)

/-- Lines that are joined can be told apart. -/
theorem joinWith_inj {as bs : List String} (has : ∀ a ∈ as, OneLine a) (hbs : ∀ b ∈ bs, OneLine b)
    (h : joinWith "\n" as = joinWith "\n" bs) : as = bs := by
  by_cases has' : as = []
  · rw [has'] at h ⊢
    exact (eq_nil_of_joinWith_eq hbs h).symm
  · by_cases hbs' : bs = []
    · rw [hbs'] at h ⊢
      exact eq_nil_of_joinWith_eq has h.symm
    · have hmap : as.map String.toList = bs.map String.toList := by
        rw [← splitOn_joinWith has has', ← splitOn_joinWith hbs hbs', h]
      exact (List.map_injective_iff.mpr fun _ _ => String.toList_inj.mp) hmap

theorem Separable.oneLine {entries : Table String} (h : Separable entries) :
    ∀ l ∈ (Table.sorted entries).map line, OneLine l := by
  intro l hl
  obtain ⟨e, he, rfl⟩ := List.mem_map.mp hl
  obtain ⟨-, hname, hvalue⟩ := h e (Table.mem_sorted.mp he)
  refine ⟨fun hempty => ?_, ?_⟩
  · have hnil := congrArg String.toList hempty
    rw [toList_line] at hnil
    simp at hnil
  · rw [toList_line, List.mem_append, List.mem_cons]
    simp [hname, hvalue]

/-- Equal texts of separable maps have equal values under every name. -/
theorem lookup_eq_of_mappingText_eq {es fs : Table String} (hes : Separable es)
    (hfs : Separable fs) (h : mappingText es = mappingText fs) (name : String) :
    es.lookup name = fs.lookup name := by
  rw [mappingText_eq, mappingText_eq] at h
  have hlines := joinWith_inj hes.oneLine hfs.oneLine h
  have hsorted : Table.sorted es = Table.sorted fs :=
    map_line_inj (fun a ha => (hes a (Table.mem_sorted.mp ha)).1)
      (fun b hb => (hfs b (Table.mem_sorted.mp hb)).1) hlines
  rw [← Table.lookup_sorted es, ← Table.lookup_sorted fs, hsorted]

/-! ## Maps that differ in one value -/

/-- Joined lines hold each line between two texts that do not depend on it. -/
theorem exists_joinWith_eq (before after : List String) : ∃ start rest : List Char, ∀ l : String,
    (joinWith "\n" (before ++ l :: after)).toList = start ++ l.toList ++ rest := by
  simp only [joinWith, String.toList_intercalate, List.map_append, List.map_cons]
  generalize before.map String.toList = bs, after.map String.toList = as
  induction bs with
  | nil =>
    cases as with
    | nil => exact ⟨[], [], fun l => by simp⟩
    | cons a as => exact ⟨[], '\n' :: ['\n'].intercalate (a :: as), fun l => by simp⟩
  | cons b bs ih =>
    obtain ⟨start, rest, h⟩ := ih
    refine ⟨b ++ '\n' :: start, rest, fun l => ?_⟩
    have hne : bs ++ l.toList :: as ≠ [] := by simp
    rw [List.cons_append, List.intercalate_cons_of_ne_nil hne, h l]
    simp

/-- The entries of a table with a value in place of each that is missing. -/
def filled (value : String) (t : Table (Option String)) : Table String :=
  t.map fun e => (e.1, e.2.getD value)

/-- Entries are sorted by their names, whatever their values are. -/
theorem sorted_filled (value : String) (t : Table (Option String)) :
    Table.sorted (filled value t) = filled value (Table.sorted t) := by
  rw [filled, filled, Table.sorted, Table.sorted]
  refine (List.map_mergeSort ?_).symm
  exact fun _ _ _ _ => rfl

theorem filled_of_present {t : Table (Option String)} (h : ∀ e ∈ t, e.2.isSome) (value value' : String) :
    filled value t = filled value' t := by
  refine List.map_congr_left fun e he => ?_
  obtain ⟨present, hpresent⟩ := Option.isSome_iff_exists.mp (h e he)
  rw [hpresent, Option.getD_some, Option.getD_some]

/-- The text of a map holds each value between two texts that do not depend on it. The missing value is
missing once, wherever its entry is sorted in. -/
theorem exists_mappingText_eq (before after : Table String) (name : String) :
    ∃ start rest : List Char, ∀ value : String,
      (mappingText (before ++ (name, value) :: after)).toList = start ++ value.toList ++ rest := by
  let present (t : Table String) : Table (Option String) := t.map fun e => (e.1, some e.2)
  have hfilled : ∀ value, filled value (present before ++ (name, none) :: present after) =
      before ++ (name, value) :: after := by
    intro value
    simp [filled, present, Function.comp_def]
  obtain ⟨smaller, greater, hsorted⟩ := List.append_of_mem
    (Table.mem_sorted.mpr (List.mem_append_right (present before) (List.mem_cons_self (a := (name, none)))))
  have hperm : (smaller ++ greater).Perm (present before ++ present after) := by
    refine List.Perm.cons_inv (a := (name, none)) ?_
    refine List.perm_middle.symm.trans (hsorted ▸ ?_)
    exact (List.mergeSort_perm _ _).trans List.perm_middle
  have hpresent : ∀ e ∈ smaller ++ greater, e.2.isSome := by
    intro e he
    rcases List.mem_append.mp (hperm.mem_iff.mp he) with hmem | hmem <;>
      obtain ⟨_, _, rfl⟩ := List.mem_map.mp hmem <;> rfl
  have hsmaller := filled_of_present fun e he => hpresent e (List.mem_append_left _ he)
  have hgreater := filled_of_present fun e he => hpresent e (List.mem_append_right _ he)
  obtain ⟨start, rest, hjoined⟩ :=
    exists_joinWith_eq ((filled "" smaller).map line) ((filled "" greater).map line)
  refine ⟨start ++ name.toList ++ ['='], rest, fun value => ?_⟩
  have htable : Table.sorted (before ++ (name, value) :: after) =
      filled "" smaller ++ (name, value) :: filled "" greater := by
    rw [← hfilled, sorted_filled, hsorted, hsmaller "" value, hgreater "" value]
    simp [filled]
  rw [mappingText_eq, htable, List.map_append, List.map_cons, hjoined, toList_line]
  simp

/-- Maps that differ in one value only have different texts. -/
theorem value_eq_of_mappingText_eq {before after : Table String} {name value value' : String}
    (h : mappingText (before ++ (name, value) :: after) = mappingText (before ++ (name, value') :: after)) :
    value = value' := by
  obtain ⟨start, rest, htext⟩ := exists_mappingText_eq before after name
  have hchars := congrArg String.toList h
  rw [htext, htext, List.append_assoc, List.append_assoc] at hchars
  exact String.toList_inj.mp (List.append_cancel_right (List.append_cancel_left hchars))

end TemplateRules.Digest
