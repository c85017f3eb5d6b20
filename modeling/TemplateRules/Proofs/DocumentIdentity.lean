import Mathlib.Data.List.Nodup
import TemplateRules.Proofs.DocumentText
import TemplateRules.Proofs.EntryOrder
import TemplateRules.Proofs.Lossless

/-!
# When documents have the same text

Two bound documents have the same text exactly if they agree, that is, are equal up to the order of their
partials: the text sorts what it writes by name, and the names of the partials of a bound document are apart.
So it does not matter either in which order a document was written down, since binding takes no notice of it.
There is one exception. The name of a partial may be given as bytes, and then stands for the text that they
encode. Where two entries name one partial in this way, the last of them counts.

## Main definitions

* `Value.Holds`: the entries of a map are bound to those of a table, name by name
* `Value.NamedByTexts`: raw documents with texts as the names of their partials

## Main results

* `Table.perm_of_lookup`: tables of the same values under every name differ in their order only
* `RuleDocument.fingerprintText_eq_of_agrees`: documents that agree have the same text
* `RuleDocument.agrees_of_same`, `RuleDocument.fingerprintText_eq_of_same`: the order of the entries of a
  document does not matter
* `RuleDocument.fingerprintText_eq_iff_agrees`: texts identify documents
-/

namespace TemplateRules

/-! ## Tables in another order -/

namespace Table

variable {α : Type} {t u : Table α}

theorem mem_iff_lookup (h : t.names.Nodup) {e : String × α} : e ∈ t ↔ t.lookup e.1 = some e.2 := by
  constructor
  · intro he
    induction t with
    | nil => simp at he
    | cons f t ih =>
      obtain ⟨n, value⟩ := f
      obtain ⟨hn, ht⟩ : n ∉ Table.names t ∧ (Table.names t).Nodup := List.nodup_cons.mp h
      rcases List.mem_cons.mp he with rfl | he
      · simp
      · have hne : e.1 ≠ n := fun heq => hn (heq ▸ List.mem_map_of_mem he)
        rw [List.lookup_cons, beq_false_of_ne hne]
        exact ih ht he
  · intro hlookup
    obtain ⟨before, after, rfl, -⟩ := List.lookup_eq_some_iff.mp hlookup
    simp

/-- Tables of the same values under every name differ in their order only. -/
theorem perm_of_lookup (ht : t.names.Nodup) (hu : u.names.Nodup)
    (h : ∀ name, t.lookup name = u.lookup name) : t.Perm u := by
  refine (List.perm_ext_iff_of_nodup (List.Nodup.of_map _ ht) (List.Nodup.of_map _ hu)).mpr fun e => ?_
  rw [mem_iff_lookup ht, mem_iff_lookup hu, h]

/-- Sorting forgets the order, where the names are apart. -/
theorem sorted_eq_of_perm (ht : t.names.Nodup) (h : t.Perm u) : sorted t = sorted u := by
  have hperm : (sorted t).Perm (sorted u) :=
    (List.mergeSort_perm t _).trans (h.trans (List.mergeSort_perm u _).symm)
  refine List.Perm.eq_of_pairwise ?_ (pairwise_sorted t) (pairwise_sorted u) hperm
  intro a b ha hb hab hba
  have hlookup := (mem_iff_lookup ht).mp (mem_sorted.mp ha)
  have hlookup' := (mem_iff_lookup ht).mp (h.mem_iff.mpr (mem_sorted.mp hb))
  have hname : a.1 = b.1 := String.le_antisymm hab hba
  rw [← hname, hlookup] at hlookup'
  exact Prod.ext hname (Option.some.inj hlookup')

end Table

namespace Value

/-! ## Texts of partials -/

theorem presentFields_texts (t : Table String) :
    presentFields (t.map fun (name, body) => (name, text body)) =
      t.map fun e => (e.1, (text e.2).dumpText) := by
  induction t with
  | nil => rfl
  | cons e t ih => rw [List.map_cons, presentFields_cons, if_neg (by simp [isNull]), ih, List.map_cons]

/-- The text of partials does not tell their order. -/
theorem dumpText_partialsValue_eq {t u : Table String} (ht : t.names.Nodup) (h : t.Perm u) :
    (partialsValue t).dumpText = (partialsValue u).dumpText := by
  have hnames : (Table.names (t.map fun e => (e.1, (text e.2).dumpText))).Nodup := by
    simpa [Table.names, Function.comp_def] using ht
  rw [partialsValue, partialsValue, dumpText_ofFields, dumpText_ofFields, presentFields_texts,
    presentFields_texts, canonicalEntries_eq, canonicalEntries_eq,
    Table.sorted_eq_of_perm hnames (h.map _)]

end Value

open Value

namespace RuleDocument

/-- **Documents that agree have the same text**, if the partials of each have different names. -/
theorem fingerprintText_eq_of_agrees {d e : RuleDocument} (hd : d.partials.names.Nodup)
    (he : e.partials.names.Nodup) (h : d.Agrees e) : d.fingerprintText = e.fingerprintText := by
  have hpartials := dumpText_partialsValue_eq hd (Table.perm_of_lookup hd he h.partials)
  have htext : d.toValue.dumpText = e.toValue.dumpText := by
    rw [toValue, toValue, dumpText_ofFields, dumpText_ofFields, h.metadata, h.conditions, h.insertions,
      h.replacements, h.smartReplacements, h.smartInsertions]
    simp only [presentFields_cons]
    rw [← partialsValue, ← partialsValue, hpartials]
    rfl
  exact congrArg String.ofList htext

end RuleDocument

/-! ## Names that are given as bytes -/

namespace Value

/-- The entries of a map are bound to those of a table, name by name. -/
def Holds (es : List (Scalar × Value)) (t : Table String) : Prop :=
  ∀ name, Option.Rel (fun v s => asText v = .ok s) (lookupKey name es) (t.lookup name)

theorem Holds.put {es : List (Scalar × Value)} {t : Table String} (h : Holds es t) {v : Value}
    {body : String} (hbody : asText v = .ok body) (name : String) :
    Holds (putEntry (.text name) v es) (t.put name body) := by
  intro other
  rw [lookupKey_putEntry, Table.lookup_put]
  by_cases hother : other = name
  · rw [if_pos hother, if_pos hother]
    exact .some hbody
  · rw [if_neg hother, if_neg hother]
    exact h other

/-- Entries are decoded and put into a map as they are bound and put into a table. -/
theorem Holds.putAll {entries : List (Scalar × Value)} {bound : List (String × String)}
    (hbound : entriesBy asText entries = .ok bound) {es : List (Scalar × Value)} {t : Table String}
    (h : Holds es t) :
    Holds ((entries.map fun e => (decodedKey e.1, e.2)).foldl (fun es e => putEntry e.1 e.2 es) es)
      (t.putAll bound) := by
  induction entries generalizing bound es t with
  | nil =>
    obtain rfl := Except.ok.inj hbound
    exact h
  | cons e entries ih =>
    obtain ⟨k, v⟩ := e
    obtain ⟨name, body, more, rfl, hname, hbody, hmore⟩ := entriesBy_cons_eq_ok.mp hbound
    rw [List.map_cons, List.foldl_cons, decodedKey_of_asText hname]
    exact ih hmore (h.put hbody name)

/-- What a map of partials is bound to is seen from the map with its keys decoded. -/
theorem holds_of_asTable {v : Value} {t : Table String} (h : asTable asText v = .ok t) :
    ∃ es, decodedKeys v = .map es ∧ Holds es t := by
  cases v with
  | map entries =>
    obtain ⟨bound, hbound, rfl⟩ := map_eq_ok.mp h
    exact ⟨_, rfl, Holds.putAll hbound fun _ => .none⟩
  | _ => simp [asTable] at h

theorem lookup_eq_of_same {v w : Value} {t u : Table String} (hsame : Same (decodedKeys v) (decodedKeys w))
    (hv : asTable asText v = .ok t) (hw : asTable asText w = .ok u) (name : String) :
    t.lookup name = u.lookup name := by
  obtain ⟨es, hes, ht⟩ := holds_of_asTable hv
  obtain ⟨fs, hfs, hu⟩ := holds_of_asTable hw
  rw [hes, hfs] at hsame
  have hentries := hsame.lookupKey name
  have hleft := ht name
  have hright := hu name
  generalize lookupKey name es = o, lookupKey name fs = p, t.lookup name = q, u.lookup name = r
    at hentries hleft hright
  cases hentries with
  | none =>
    obtain rfl := eq_none_of_rel hleft
    obtain rfl := eq_none_of_rel hright
    rfl
  | some hbody =>
    obtain ⟨s, rfl, hs⟩ := exists_of_rel_some hleft
    obtain ⟨s', rfl, hs'⟩ := exists_of_rel_some hright
    exact congrArg some (Except.ok.inj ((anyOrder_text s hbody hs).symm.trans hs'))

/-- The names of the partials of a raw document are texts, and apart. -/
def NamedByTexts (entries : List (Scalar × Value)) : Prop :=
  ∀ v, lookupKey "partials" entries = some v →
    ∃ fields, (Table.names fields).Nodup ∧ v = ofFields fields

/-- Names that are texts are left as they are. -/
theorem NamedByTexts.lookup_alter {es : List (Scalar × Value)} (h : NamedByTexts es) (k : Scalar) :
    (alter "partials" (Option.map decodedKeys) es).lookup k = es.lookup k := by
  by_cases hk : k = .text "partials"
  · rw [hk, lookup_text, lookup_text, lookupKey_alter, if_pos rfl]
    cases hv : lookupKey "partials" es with
    | none => rfl
    | some v =>
      obtain ⟨fields, hnodup, rfl⟩ := h v hv
      rw [Option.map_some, decodedKeys_ofFields hnodup]
  · exact lookup_alter_of_ne hk _ es

/-- Fields of other keys are bound as before. -/
theorem optional_alter_of_ne {α : Type} {key : String} {g : Option Value → Option Value} {f : FieldKey}
    {es : List (Scalar × Value)} {default : α} {bind : Value → Bound α} (hkey : f.key ≠ key)
    (hname : f.name ≠ key) : f.optional (alter key g es) default bind = f.optional es default bind := by
  rw [FieldKey.optional, FieldKey.optional, FieldKey.field?, FieldKey.field?, lookupKey_alter,
    lookupKey_alter, if_neg hkey, if_neg hname]

end Value

/-! ## Documents in another order -/

namespace RuleDocument

/-- Fields other than the partials are bound alike in documents that are the same. -/
theorem field_eq_of_same {α : Type} {f : FieldKey} {es fs : List (Scalar × Value)} {default a b : α}
    {bind : Value → Bound α} (hsame : Same (namesAsTexts (.map es)) (namesAsTexts (.map fs)))
    (hbind : AnyOrder bind a) (hes : f.optional es default bind = .ok a)
    (hfs : f.optional fs default bind = .ok b) (hother : f.key ≠ "partials" ∧ f.name ≠ "partials") :
    a = b := by
  rw [← optional_alter_of_ne hother.1 hother.2] at hes hfs
  exact Except.ok.inj ((hsame.optional hbind hes).symm.trans hfs)

theorem partials_eq_of_same {es fs : List (Scalar × Value)} {t u : Table String}
    (hsame : Same (namesAsTexts (.map es)) (namesAsTexts (.map fs)))
    (hes : (FieldKey.plain "partials").optional es [] (asTable asText) = .ok t)
    (hfs : (FieldKey.plain "partials").optional fs [] (asTable asText) = .ok u) (name : String) :
    t.lookup name = u.lookup name := by
  have hpartials := hsame.lookupKey "partials"
  rw [lookupKey_alter, lookupKey_alter, if_pos rfl, if_pos rfl] at hpartials
  rw [FieldKey.optional_plain_eq_ok] at hes hfs
  cases hv : lookupKey "partials" es with
  | none =>
    rw [hv] at hpartials hes
    have hw : lookupKey "partials" fs = none := by simpa using eq_none_of_rel hpartials
    rw [hw] at hfs
    rw [hes, hfs]
  | some v =>
    rw [hv] at hpartials hes
    obtain ⟨_, hmap, hdecoded⟩ := exists_of_rel_some hpartials
    obtain ⟨w, hw, rfl⟩ := Option.map_eq_some_iff.mp hmap
    rw [hw] at hfs
    exact lookup_eq_of_same hdecoded hes hfs name

/-- **The order of the entries of a document does not matter**, once the names of its partials are texts. -/
theorem agrees_of_same {v w : Value} {d e : RuleDocument} (hd : ofValue v = .ok d)
    (he : ofValue w = .ok e) (hsame : Same v.namesAsTexts w.namesAsTexts) : d.Agrees e := by
  obtain ⟨es, rfl, hes⟩ := boundFrom_of_ofValue hd
  obtain ⟨fs, rfl, hfs⟩ := boundFrom_of_ofValue he
  exact {
    metadata := field_eq_of_same hsame (.orNull fun m _ => m.anyOrder) hes.metadata hfs.metadata (by decide)
    conditions := field_eq_of_same hsame (ConditionSet.anyOrder_nullable _) hes.conditions hfs.conditions (by decide)
    insertions := field_eq_of_same hsame (.sequence fun c _ => Insertion.anyOrder_chain c)
      hes.insertions hfs.insertions (by decide)
    replacements := field_eq_of_same hsame (.sequence fun c _ => Replacement.anyOrder_chain c)
      hes.replacements hfs.replacements (by decide)
    smartReplacements := field_eq_of_same hsame (.sequence fun r _ => r.anyOrder)
      hes.smartReplacements hfs.smartReplacements (by decide)
    smartInsertions := field_eq_of_same hsame (.sequence fun i _ => i.anyOrder)
      hes.smartInsertions hfs.smartInsertions (by decide)
    partials := partials_eq_of_same hsame hes.partials hfs.partials }

/-- The names of the partials of a bound document are apart, so its text is that of those it agrees with. -/
theorem fingerprintText_eq_of_bound {v w : Value} {d e : RuleDocument} (hd : ofValue v = .ok d)
    (he : ofValue w = .ok e) (h : d.Agrees e) : d.fingerprintText = e.fingerprintText := by
  obtain ⟨_, rfl, hes⟩ := boundFrom_of_ofValue hd
  obtain ⟨_, rfl, hfs⟩ := boundFrom_of_ofValue he
  exact fingerprintText_eq_of_agrees (names_partials_of_boundFrom hes) (names_partials_of_boundFrom hfs) h

/-- Where every partial is named by a text, documents that are written down in another order have the same
text. -/
theorem fingerprintText_eq_of_same {es fs : List (Scalar × Value)} {d e : RuleDocument}
    (hd : ofValue (.map es) = .ok d) (he : ofValue (.map fs) = .ok e) (hes : NamedByTexts es)
    (hfs : NamedByTexts fs) (hsame : Same (.map es) (.map fs)) :
    d.fingerprintText = e.fingerprintText := by
  have hnames : Same (namesAsTexts (.map es)) (namesAsTexts (.map fs)) := by
    refine .map fun k => ?_
    rw [hes.lookup_alter, hfs.lookup_alter]
    exact hsame.lookup k
  exact fingerprintText_eq_of_bound hd he (agrees_of_same hd he hnames)

/-- **Texts identify documents.** Bound documents have the same text exactly if they agree; and they do if
they were written down as the same values, whatever the order of entries, once the names of partials are
texts. -/
theorem fingerprintText_eq_iff_agrees {v w : Value} {d e : RuleDocument} (hd : ofValue v = .ok d)
    (he : ofValue w = .ok e) :
    (d.fingerprintText = e.fingerprintText ↔ d.Agrees e) ∧
      (Same v.namesAsTexts w.namesAsTexts → d.fingerprintText = e.fingerprintText) := by
  have hagrees : d.Agrees e → d.fingerprintText = e.fingerprintText := fingerprintText_eq_of_bound hd he
  exact ⟨⟨agrees_of_fingerprintText_eq, hagrees⟩, fun hsame => hagrees (agrees_of_same hd he hsame)⟩

/-- A raw document that names a partial by bytes, and again by the text that they encode. -/
def namedTwiceRaw : Value := .map [
  (.text "partials", .map [(.bytes [0x70], .text "o"), (.text "q", .text "b"), (.text "p", .text "a")]),
  (.text "insertions", .list [.ofFields [("after", .text "x"), ("content", .text "y")]])]

/-- The same partials and rules, written down in another order. -/
def rearrangedRaw : Value := .ofFields [
  ("insertions", .list [.ofFields [("content", .text "y"), ("after", .text "x")]]),
  ("partials", .ofFields [("q", .text "b"), ("p", .text "a")])]

theorem fingerprintText_eq_rearranged :
    ∃ d e, ofValue namedTwiceRaw = .ok d ∧ ofValue rearrangedRaw = .ok e ∧
      Same namedTwiceRaw.namesAsTexts rearrangedRaw.namesAsTexts ∧
      (d.fingerprintText = e.fingerprintText ↔ d.Agrees e) ∧ d.fingerprintText = e.fingerprintText := by
  have hd : (ofValue namedTwiceRaw).toOption.isSome = true := by decide +kernel
  have he : (ofValue rearrangedRaw).toOption.isSome = true := by decide +kernel
  obtain ⟨d, hd⟩ := Option.isSome_iff_exists.mp hd
  obtain ⟨e, he⟩ := Option.isSome_iff_exists.mp he
  rw [toOption_eq_some] at hd he
  have hpartials : namedTwiceRaw.namesAsTexts = .map [
      (.text "partials", .map [(.text "p", .text "a"), (.text "q", .text "b")]),
      (.text "insertions", .list [.ofFields [("after", .text "x"), ("content", .text "y")]])] := by cbv
  have hsame : Same namedTwiceRaw.namesAsTexts rearrangedRaw.namesAsTexts := by
    rw [hpartials]
    exact .map_cons (.map_swap (by decide) _ _ _)
      (.map_cons (.list (.cons (.map_swap (by decide) _ _ _) .nil)) (Same.refl _))
  obtain ⟨htext, horder⟩ := fingerprintText_eq_iff_agrees hd he
  exact ⟨d, e, hd, he, hsame, htext, horder hsame⟩

/-- Of two entries that name one partial, by bytes and by a text, the last one counts. -/
theorem fingerprintText_ne_of_bytes :
    let v : Value := .ofFields [("partials", .map [(.bytes [0x78], .text "a"), (.text "x", .text "b")])]
    let w : Value := .ofFields [("partials", .map [(.text "x", .text "b"), (.bytes [0x78], .text "a")])]
    let d : RuleDocument := ⟨none, none, [], [], [], [], [("x", "b")]⟩
    let e : RuleDocument := ⟨none, none, [], [], [], [], [("x", "a")]⟩
    Same v w ∧ ofValue v = .ok d ∧ ofValue w = .ok e ∧ d.fingerprintText ≠ e.fingerprintText := by
  intro v w d e
  have hsame : Same v w := .map_cons (.map_swap (by decide) _ _ _) (Same.refl _)
  refine ⟨hsame, by cbv, by cbv, fun htext => ?_⟩
  have hpartial := (agrees_of_fingerprintText_eq htext).partials "x"
  simp [d, e] at hpartial

end RuleDocument

end TemplateRules
