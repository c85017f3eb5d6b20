import TemplateRules.Proofs.CanonicalText
import TemplateRules.Rule.Conditions
import TemplateRules.Table

/-!
# Canonical texts of values can be told apart

The canonical text of a value without numbers begins no other one: a text ends with its quote, and a list
or map with its bracket. So a text that holds several of them tells each one and where it ends. What the
text of a map tells is its entries in the order of their names, and with them the text under every name.

## Main definitions

* `Table.sorted`: a table in the order of its names
* `Value.Plain`: values of texts, lists and maps
* `Value.dumpText`: the text of a value without what is absent

## Main results

* `Table.lookup_sorted`: sorting keeps the first value under every name
* `Value.Plain.append_inj`: no canonical text begins another one
* `Value.dumpText_ofFields_inj`: equal texts of records have equal texts of every field
-/

namespace TemplateRules

open Text

/-! ## Sorted tables -/

namespace Table

variable {α : Type}

/-- A table in the order of its names; entries of one name keep their order. -/
def sorted (t : Table α) : Table α := t.mergeSort fun a b => a.1 ≤ b.1

theorem mem_sorted {t : Table α} {e : String × α} : e ∈ sorted t ↔ e ∈ t := List.mem_mergeSort

theorem decide_le_trans (a b c : String × α) (hab : decide (a.1 ≤ b.1) = true)
    (hbc : decide (b.1 ≤ c.1) = true) : decide (a.1 ≤ c.1) = true := by
  rw [decide_eq_true_eq] at hab hbc ⊢
  exact String.le_trans hab hbc

theorem decide_le_total (a b : String × α) : (decide (a.1 ≤ b.1) || decide (b.1 ≤ a.1)) = true := by
  simpa using String.le_total a.1 b.1

theorem pairwise_sorted (t : Table α) : (sorted t).Pairwise fun a b => a.1 ≤ b.1 := by
  simpa [sorted] using List.pairwise_mergeSort decide_le_trans decide_le_total t

/-- An entry is sorted in behind those of smaller names only. -/
theorem sorted_cons (e : String × α) (t : Table α) : ∃ smaller rest : Table α,
    sorted (e :: t) = smaller ++ e :: rest ∧ sorted t = smaller ++ rest ∧
      ∀ a ∈ smaller, a.1 < e.1 := by
  obtain ⟨smaller, rest, hcons, ht, hsmaller⟩ := List.mergeSort_cons decide_le_trans decide_le_total e t
  exact ⟨smaller, rest, hcons, ht, fun a ha => by simpa using hsmaller a ha⟩

/-- Sorting keeps the first value under every name. -/
theorem lookup_sorted (t : Table α) (name : String) : (sorted t).lookup name = t.lookup name := by
  induction t with
  | nil => simp [sorted]
  | cons e t ih =>
    obtain ⟨n, value⟩ := e
    obtain ⟨smaller, rest, hcons, ht, hsmaller⟩ := sorted_cons (n, value) t
    rw [hcons, List.lookup_append, List.lookup_cons, List.lookup_cons]
    by_cases hn : name = n
    · have hnone : smaller.lookup name = none := by
        rw [List.lookup_eq_none_iff]
        intro a ha
        have hlt := hsmaller a ha
        rw [hn]
        simpa using fun heq : n = a.1 => absurd (heq ▸ hlt) (String.lt_irrefl _)
      simp [hn, hn ▸ hnone]
    · rw [beq_false_of_ne hn, ← ih, ht, List.lookup_append]

end Table

namespace Value

/-! ## Values without numbers -/

/-- Null, a text, or a list or map of such values. -/
inductive Plain : Value → Prop
  | null : Plain .null
  | text (s : String) : Plain (.text s)
  | list {items : List Value} (hitems : ∀ v ∈ items, Plain v) : Plain (.list items)
  | map {entries : List (Scalar × Value)} (hentries : ∀ e ∈ entries, Plain e.2) :
      Plain (.map entries)

theorem canonicalItems_eq_map (items : List Value) : canonicalItems items = items.map canonical := by
  induction items with
  | nil => rfl
  | cons v vs ih => rw [canonicalItems, ih, List.map_cons]

theorem canonicalPairs_eq_map (entries : List (Scalar × Value)) :
    canonicalPairs entries = entries.map fun e => (e.1.plain, e.2.canonical) := by
  induction entries with
  | nil => rfl
  | cons e rest ih => rw [canonicalPairs, ih, List.map_cons]

/-- The first character of a canonical text does not close a list. -/
theorem Plain.canonical_eq_cons {v : Value} (hv : v.Plain) :
    ∃ c cs, v.canonical = c :: cs ∧ c ≠ ']' := by
  cases hv with
  | null => exact ⟨'n', _, rfl, by decide⟩
  | text s => exact ⟨'"', _, rfl, by decide⟩
  | list _ => exact ⟨'[', _, rfl, by decide⟩
  | map _ => exact ⟨'\x7b', _, rfl, by decide⟩

/-- An entry of a map in canonical notation. -/
def canonicalEntry (e : String × List Char) : List Char := canonicalText e.1.toList ++ ':' :: e.2

theorem canonicalEntry_append_inj {e f : String × List Char} {r s : List Char}
    (h : canonicalEntry e ++ r = canonicalEntry f ++ s) : e.1 = f.1 ∧ e.2 ++ r = f.2 ++ s := by
  simp only [canonicalEntry, List.append_assoc, List.cons_append] at h
  obtain ⟨hname, hrest⟩ := canonicalText_append_inj h
  exact ⟨String.toList_inj.mp hname, by simpa using hrest⟩

theorem canonicalEntry_injective : Function.Injective canonicalEntry := by
  intro e f h
  obtain ⟨hname, htext⟩ := canonicalEntry_append_inj (congrArg (· ++ []) h)
  exact Prod.ext hname (by simpa using htext)

theorem canonicalEntries_eq (es : List (String × List Char)) : canonicalEntries es =
    '\x7b' :: (commaSeparated ((Table.sorted es).map canonicalEntry) ++ ['\x7d']) := rfl

/-- The texts of maps tell their entries in the order of the names, where the texts of their values can be
told apart. -/
theorem canonicalEntries_append_inj {es fs : List (String × List Char)} {r s : List Char}
    (happart : ToldApart (es.map (·.2)) (fs.map (·.2)))
    (h : canonicalEntries es ++ r = canonicalEntries fs ++ s) :
    Table.sorted es = Table.sorted fs ∧ r = s := by
  simp only [canonicalEntries_eq, List.cons_append, List.append_assoc, List.nil_append,
    List.cons.injEq, true_and] at h
  have hitems : ToldApart ((Table.sorted es).map canonicalEntry)
      ((Table.sorted fs).map canonicalEntry) := by
    intro a ha b hb r s hab
    obtain ⟨e, he, rfl⟩ := List.mem_map.mp ha
    obtain ⟨f, hf, rfl⟩ := List.mem_map.mp hb
    obtain ⟨hname, htext⟩ := canonicalEntry_append_inj hab
    obtain ⟨hvalue, hrest⟩ := happart e.2 (List.mem_map_of_mem (Table.mem_sorted.mp he)) f.2
      (List.mem_map_of_mem (Table.mem_sorted.mp hf)) r s htext
    exact ⟨congrArg canonicalEntry (Prod.ext hname hvalue), hrest⟩
  have hopen : ∀ a ∈ (Table.sorted es).map canonicalEntry ++ (Table.sorted fs).map canonicalEntry,
      ∃ c cs, a = c :: cs ∧ c ≠ '\x7d' := by
    intro a ha
    rw [← List.map_append] at ha
    obtain ⟨e, -, rfl⟩ := List.mem_map.mp ha
    exact ⟨'"', _, rfl, by decide⟩
  obtain ⟨hmap, hrest⟩ := commaSeparated_append_inj (by decide) hitems hopen h
  exact ⟨canonicalEntry_injective.list_map hmap, hrest⟩

theorem canonical_list (items : List Value) : (Value.list items).canonical =
    '[' :: (commaSeparated (items.map canonical) ++ [']']) := by
  rw [canonical, canonicalItems_eq_map]

theorem canonical_map (entries : List (Scalar × Value)) : (Value.map entries).canonical =
    canonicalEntries (entries.map fun e => (e.1.plain, e.2.canonical)) := by
  rw [canonical, canonicalPairs_eq_map]

/-- The texts of lists tell those of their items, where these can be told apart. -/
theorem canonicalList_append_inj {vs ws : List Value} {r s : List Char}
    (hplain : ∀ v ∈ vs ++ ws, v.Plain) (happart : ToldApart (vs.map canonical) (ws.map canonical))
    (h : (Value.list vs).canonical ++ r = (Value.list ws).canonical ++ s) :
    vs.map canonical = ws.map canonical ∧ r = s := by
  simp only [canonical_list, List.cons_append, List.append_assoc, List.nil_append,
    List.cons.injEq, true_and] at h
  have hopen : ∀ a ∈ vs.map canonical ++ ws.map canonical, ∃ c cs, a = c :: cs ∧ c ≠ ']' := by
    intro a ha
    rw [← List.map_append] at ha
    obtain ⟨v, hv, rfl⟩ := List.mem_map.mp ha
    exact (hplain v hv).canonical_eq_cons
  exact commaSeparated_append_inj (by decide) happart hopen h

/-- No canonical text begins another one. The induction is on the first value; values of two kinds differ in
the first character of their texts. -/
theorem Plain.append_inj {v w : Value} {r s : List Char} (hv : v.Plain) (hw : w.Plain)
    (h : v.canonical ++ r = w.canonical ++ s) : v.canonical = w.canonical ∧ r = s := by
  induction hv generalizing w r s with
  | null =>
    cases hw with
    | null => exact ⟨rfl, List.append_cancel_left h⟩
    | text | list | map => simp [canonical, Scalar.canonical, canonicalText, canonicalEntries] at h
  | text t =>
    cases hw with
    | text t' =>
      obtain ⟨ht, hrest⟩ := canonicalText_append_inj h
      exact ⟨congrArg canonicalText ht, hrest⟩
    | null | list | map => simp [canonical, Scalar.canonical, canonicalText, canonicalEntries] at h
  | @list items hitems ih =>
    cases hw with
    | @list items' hitems' =>
      have happart : ToldApart (items.map canonical) (items'.map canonical) := by
        intro a ha b hb r s hab
        obtain ⟨v, hv, rfl⟩ := List.mem_map.mp ha
        obtain ⟨w, hw, rfl⟩ := List.mem_map.mp hb
        exact ih v hv (hitems' w hw) hab
      obtain ⟨hmap, hrest⟩ := canonicalList_append_inj
        (fun v hv => (List.mem_append.mp hv).elim (hitems v) (hitems' v)) happart h
      exact ⟨by rw [canonical_list, canonical_list, hmap], hrest⟩
    | null | text | map => simp [canonical, Scalar.canonical, canonicalText, canonicalEntries] at h
  | @map entries hentries ih =>
    cases hw with
    | @map entries' hentries' =>
      rw [canonical_map, canonical_map] at h
      have happart : ToldApart ((entries.map fun e => (e.1.plain, e.2.canonical)).map (·.2))
          ((entries'.map fun e => (e.1.plain, e.2.canonical)).map (·.2)) := by
        intro a ha b hb r s hab
        simp only [List.map_map, List.mem_map] at ha hb
        obtain ⟨e, he, rfl⟩ := ha
        obtain ⟨f, hf, rfl⟩ := hb
        exact ih e he (hentries' f hf) hab
      obtain ⟨hsorted, hrest⟩ := canonicalEntries_append_inj happart h
      refine ⟨?_, hrest⟩
      rw [canonical_map, canonical_map, canonicalEntries_eq, canonicalEntries_eq, hsorted]
    | null | text | list => simp [canonical, Scalar.canonical, canonicalText, canonicalEntries] at h

/-! ## Values without what is absent -/

/-- Whether a value is null. -/
def isNull : Value → Bool
  | .scalar .null => true
  | _ => false

/-- The canonical text of a value without what is absent. -/
def dumpText (v : Value) : List Char := v.withoutNulls.canonical

theorem isNull_iff {v : Value} : v.isNull = true ↔ v = null := by
  constructor
  · intro h
    unfold isNull at h
    split at h
    · rfl
    · simp at h
  · rintro rfl
    rfl

theorem itemsWithoutNulls_eq_map (items : List Value) :
    itemsWithoutNulls items = items.map withoutNulls := by
  induction items with
  | nil => rfl
  | cons v vs ih => rw [itemsWithoutNulls, ih, List.map_cons]

theorem entriesWithoutNulls_cons (k : Scalar) (v : Value) (rest : List (Scalar × Value)) :
    entriesWithoutNulls ((k, v) :: rest) =
      if v.isNull then entriesWithoutNulls rest
      else (k, v.withoutNulls) :: entriesWithoutNulls rest := by
  split
  next h => rw [isNull_iff.mp h, entriesWithoutNulls]
  next h =>
    rw [entriesWithoutNulls]
    rintro rfl
    exact h rfl

theorem mem_entriesWithoutNulls {entries : List (Scalar × Value)} {e : Scalar × Value}
    (he : e ∈ entriesWithoutNulls entries) : ∃ e' ∈ entries, e = (e'.1, e'.2.withoutNulls) := by
  induction entries with
  | nil => simp [entriesWithoutNulls] at he
  | cons e' rest ih =>
    rw [entriesWithoutNulls_cons] at he
    split at he
    · obtain ⟨e'', hmem, rfl⟩ := ih he
      exact ⟨e'', List.mem_cons_of_mem _ hmem, rfl⟩
    · rcases List.mem_cons.mp he with rfl | he
      · exact ⟨e', List.mem_cons_self, rfl⟩
      · obtain ⟨e'', hmem, rfl⟩ := ih he
        exact ⟨e'', List.mem_cons_of_mem _ hmem, rfl⟩

theorem Plain.withoutNulls {v : Value} (hv : v.Plain) : v.withoutNulls.Plain := by
  induction hv with
  | null => exact .null
  | text s => exact .text s
  | list _ ih =>
    rw [Value.withoutNulls, itemsWithoutNulls_eq_map]
    refine .list fun w hw => ?_
    obtain ⟨v, hv, rfl⟩ := List.mem_map.mp hw
    exact ih v hv
  | map _ ih =>
    rw [Value.withoutNulls]
    refine .map fun e he => ?_
    obtain ⟨e', he', rfl⟩ := mem_entriesWithoutNulls he
    exact ih e' he'

theorem Plain.ofFields {fields : List (String × Value)} (h : ∀ f ∈ fields, f.2.Plain) :
    (ofFields fields).Plain := by
  refine .map fun e he => ?_
  obtain ⟨f, hf, rfl⟩ := List.mem_map.mp he
  exact h f hf

/-! ## Fields -/

/-- The texts of the fields that are present. -/
def presentFields (fields : List (String × Value)) : Table (List Char) :=
  (fields.filter fun f => !f.2.isNull).map fun f => (f.1, f.2.dumpText)

theorem presentFields_cons (f : String × Value) (fields : List (String × Value)) :
    presentFields (f :: fields) =
      if f.2.isNull then presentFields fields
      else (f.1, f.2.dumpText) :: presentFields fields := by
  rw [presentFields, List.filter_cons]
  cases f.2.isNull <;> rfl

theorem dumpText_ofFields (fields : List (String × Value)) :
    (ofFields fields).dumpText = canonicalEntries (presentFields fields) := by
  have hpairs : canonicalPairs (entriesWithoutNulls (fields.map fun f => (.text f.1, f.2))) =
      presentFields fields := by
    induction fields with
    | nil => rfl
    | cons f fields ih =>
      rw [List.map_cons, entriesWithoutNulls_cons, presentFields_cons]
      split
      · exact ih
      · rw [canonicalPairs, ih]
        rfl
  rw [dumpText, ofFields, withoutNulls, canonical, hpairs]

theorem lookup_presentFields_eq_none {fields : List (String × Value)} {name : String}
    (h : name ∉ fields.map (·.1)) : (presentFields fields).lookup name = none := by
  rw [List.lookup_eq_none_iff]
  intro e he
  obtain ⟨f, hf, rfl⟩ := List.mem_map.mp he
  have hne : name ≠ f.1 := fun heq => h (heq ▸ List.mem_map_of_mem (List.mem_of_mem_filter hf))
  simpa using hne

/-- A field is looked up past those of other names. -/
theorem lookup_presentFields_cons_of_ne {f : String × Value} {name : String} (hname : name ≠ f.1)
    (fields : List (String × Value)) :
    (presentFields (f :: fields)).lookup name = (presentFields fields).lookup name := by
  rw [presentFields_cons]
  split
  · rfl
  · rw [List.lookup_cons, beq_false_of_ne hname]

/-- The first fields of records have equal texts if they are looked up alike, since the others have
other names. -/
theorem dumpText_eq_of_lookup_cons {name : String} {v w : Value} {fs gs : List (String × Value)}
    (hfs : name ∉ fs.map (·.1)) (hgs : name ∉ gs.map (·.1))
    (h : (presentFields ((name, v) :: fs)).lookup name =
      (presentFields ((name, w) :: gs)).lookup name) : v.dumpText = w.dumpText := by
  have hnone := lookup_presentFields_eq_none hfs
  have hnone' := lookup_presentFields_eq_none hgs
  rw [presentFields_cons, presentFields_cons] at h
  cases hv : v.isNull <;> cases hw : w.isNull <;> simp [hv, hw, hnone, hnone'] at h
  · exact h
  · rw [isNull_iff.mp hv, isNull_iff.mp hw]

/-- Fields of the same names have equal texts if what is present under every name does. -/
theorem dumpText_eq_of_lookup {fs gs : List (String × Value)}
    (hnames : fs.map (·.1) = gs.map (·.1)) (hnodup : (fs.map (·.1)).Nodup)
    (hlookup : ∀ name, (presentFields fs).lookup name = (presentFields gs).lookup name) :
    fs.map (·.2.dumpText) = gs.map (·.2.dumpText) := by
  induction fs generalizing gs with
  | nil =>
    obtain rfl : gs = [] := by simpa using hnames.symm
    rfl
  | cons f fs ih =>
    obtain ⟨g, gs, rfl⟩ : ∃ g gs', gs = g :: gs' := by
      cases gs with
      | nil => simp at hnames
      | cons g gs => exact ⟨g, gs, rfl⟩
    obtain ⟨n, v⟩ := f
    obtain ⟨m, w⟩ := g
    obtain ⟨rfl, hrest⟩ : n = m ∧ fs.map (·.1) = gs.map (·.1) := by simpa using hnames
    obtain ⟨hn, hnodup⟩ : n ∉ fs.map (·.1) ∧ (fs.map (·.1)).Nodup := by
      rwa [List.map_cons, List.nodup_cons] at hnodup
    have hn' : n ∉ gs.map (·.1) := hrest ▸ hn
    have hhead : v.dumpText = w.dumpText := dumpText_eq_of_lookup_cons hn hn' (hlookup n)
    have htail : ∀ name, (presentFields fs).lookup name = (presentFields gs).lookup name := by
      intro name
      by_cases hname : name = n
      · rw [hname, lookup_presentFields_eq_none hn, lookup_presentFields_eq_none hn']
      · rw [← lookup_presentFields_cons_of_ne (f := (n, v)) hname fs,
          ← lookup_presentFields_cons_of_ne (f := (n, w)) hname gs]
        exact hlookup name
    rw [List.map_cons, List.map_cons, hhead, ih hrest hnodup htail]

/-- Equal texts of fields tell that what is present is equal, up to its order. -/
theorem sorted_presentFields_of_dumpText_eq {fs gs : List (String × Value)}
    (hfs : (ofFields fs).Plain) (hgs : (ofFields gs).Plain)
    (h : (ofFields fs).dumpText = (ofFields gs).dumpText) :
    Table.sorted (presentFields fs) = Table.sorted (presentFields gs) := by
  have hplain : ∀ {hs : List (String × Value)}, (ofFields hs).Plain → ∀ f ∈ hs, f.2.Plain := by
    intro hs hplain f hf
    cases hplain with
    | map hentries => exact hentries (.text f.1, f.2) (List.mem_map_of_mem hf)
  rw [dumpText_ofFields, dumpText_ofFields] at h
  refine (canonicalEntries_append_inj (r := []) (s := []) ?_ (congrArg (· ++ []) h)).1
  intro a ha b hb r s hab
  simp only [presentFields, List.map_map, List.mem_map] at ha hb
  obtain ⟨f, hf, rfl⟩ := ha
  obtain ⟨g, hg, rfl⟩ := hb
  exact (hplain hfs f (List.mem_of_mem_filter hf)).withoutNulls.append_inj
    (hplain hgs g (List.mem_of_mem_filter hg)).withoutNulls hab

/-- Equal texts of records with the same fields have equal texts of every field. -/
theorem dumpText_ofFields_inj {fs gs : List (String × Value)}
    (hfs : (ofFields fs).Plain) (hgs : (ofFields gs).Plain)
    (hnames : fs.map (·.1) = gs.map (·.1)) (hnodup : (fs.map (·.1)).Nodup)
    (h : (ofFields fs).dumpText = (ofFields gs).dumpText) :
    fs.map (·.2.dumpText) = gs.map (·.2.dumpText) := by
  refine dumpText_eq_of_lookup hnames hnodup fun name => ?_
  rw [← Table.lookup_sorted (presentFields fs), ← Table.lookup_sorted (presentFields gs),
    sorted_presentFields_of_dumpText_eq hfs hgs h]

end Value

end TemplateRules
