import Mathlib.Data.List.Forall2
import TemplateRules.Proofs.ValueText

/-!
# Values up to the order of entries

A map is what it holds under its keys, so two values are the same if they differ in the order of the
entries of maps at most. A record is written with a field for each of its parts, and a part that is absent
is not written; what is under a key of the map that is written is the field of that name, if it is present.

## Main definitions

* `Value.Same`: equality up to the order of entries
* `Value.present`: the value that is written for a part, if the part is not absent
* `Value.written`: the entries that are written for the fields of a record
* `Value.alter`: a map with what is under one key changed

## Main results

* `Value.Same.map_cons`, `Value.Same.map_swap`: maps that differ in the order of their entries
* `Value.lookupKey_written`: what is written under a key
* `Value.same_record`: a record is the same as a map if every field is
-/

namespace TemplateRules

/-- Only a text is the same key as a text. -/
theorem Scalar.sameKey_text {k : Scalar} {name : String} :
    k.sameKey (.text name) = true ↔ k = .text name := by
  cases k with
  | float x =>
    simp only [sameKey, wholeNumber?]
    cases x.toInt? <;> simp
  | _ => simp [sameKey, wholeNumber?]

namespace Value

/-! ## Keys -/

section Keys

variable {names : List String} {entries : List (Scalar × Value)} {key : String}

theorem lookup_text (key : String) (entries : List (Scalar × Value)) :
    entries.lookup (.text key) = lookupKey key entries := by
  induction entries with
  | nil => rfl
  | cons e rest ih =>
    obtain ⟨k, v⟩ := e
    rw [List.lookup_cons, lookupKey, ih]
    by_cases h : k = .text key
    · simp [h]
    · simp [h, beq_false_of_ne (Ne.symm h)]

/-- Every key is a text, and one of some names. -/
def KeysAmong (names : List String) (entries : List (Scalar × Value)) : Prop :=
  ∀ e ∈ entries, ∃ name ∈ names, e.1 = .text name

theorem KeysAmong.lookup_eq_none (h : KeysAmong names entries) {k : Scalar}
    (hk : ∀ name ∈ names, k ≠ .text name) : entries.lookup k = none := by
  rw [List.lookup_eq_none_iff]
  intro e he
  obtain ⟨name, hname, heq⟩ := h e he
  simpa [heq] using hk name hname

theorem KeysAmong.lookupKey_eq_none (h : KeysAmong names entries) (hkey : key ∉ names) :
    lookupKey key entries = none := by
  rw [← lookup_text]
  refine h.lookup_eq_none fun name hname heq => ?_
  obtain rfl := Scalar.text.inj heq
  exact hkey hname

/-- What is under the name that an entry is put under is its value, and under other names what was there. -/
theorem lookupKey_putEntry (name other : String) (v : Value) (entries : List (Scalar × Value)) :
    lookupKey other (putEntry (.text name) v entries) =
      if other = name then some v else lookupKey other entries := by
  induction entries with
  | nil =>
    by_cases h : other = name
    · simp [putEntry, lookupKey, h]
    · simp [putEntry, lookupKey, h, Ne.symm h]
  | cons e rest ih =>
    obtain ⟨k, w⟩ := e
    rw [putEntry]
    by_cases hk : k = .text name
    · rw [if_pos (Scalar.sameKey_text.mpr hk), lookupKey, lookupKey, hk]
      by_cases h : other = name
      · simp [h]
      · simp [h, Ne.symm h]
    · rw [if_neg (Scalar.sameKey_text.not.mpr hk), lookupKey, lookupKey, ih]
      by_cases h : other = name
      · simp [h, hk]
      · simp [h]

end Keys

/-! ## Equality up to order -/

/-- Equality of values up to the order of the entries of maps. -/
inductive Same : Value → Value → Prop
  | scalar (s : Scalar) : Same (.scalar s) (.scalar s)
  | list {vs ws : List Value} (items : List.Forall₂ Same vs ws) : Same (.list vs) (.list ws)
  | pair {a b c d : Value} (first : Same a c) (second : Same b d) : Same (.pair a b) (.pair c d)
  | map {es fs : List (Scalar × Value)}
      (entries : ∀ key, Option.Rel Same (es.lookup key) (fs.lookup key)) : Same (.map es) (.map fs)
  | members (keys : List Scalar) : Same (.members keys) (.members keys)

mutual

theorem Same.refl : ∀ v : Value, Same v v
  | .scalar s => .scalar s
  | .list items => .list (forall₂_same_refl items)
  | .pair a b => .pair (Same.refl a) (Same.refl b)
  | .map entries => .map (lookup_same_refl entries)
  | .members keys => .members keys

theorem forall₂_same_refl : ∀ vs : List Value, List.Forall₂ Same vs vs
  | [] => .nil
  | v :: vs => .cons (Same.refl v) (forall₂_same_refl vs)

theorem lookup_same_refl : ∀ (es : List (Scalar × Value)) (key : Scalar),
    Option.Rel Same (es.lookup key) (es.lookup key)
  | [], _ => .none
  | (k, v) :: rest, key => by
    rw [List.lookup_cons]
    cases key == k with
    | true => exact .some (Same.refl v)
    | false => exact lookup_same_refl rest key

end

theorem Same.lookup {es fs : List (Scalar × Value)} (h : Same (.map es) (.map fs)) (key : Scalar) :
    Option.Rel Same (es.lookup key) (fs.lookup key) := by
  cases h with
  | map entries => exact entries key

theorem Same.map_cons {k : Scalar} {v w : Value} {es fs : List (Scalar × Value)} (h : Same v w)
    (hrest : Same (.map es) (.map fs)) : Same (.map ((k, v) :: es)) (.map ((k, w) :: fs)) := by
  refine .map fun key => ?_
  rw [List.lookup_cons, List.lookup_cons]
  cases key == k with
  | true => exact .some h
  | false => exact hrest.lookup key

/-- Entries of different keys may change places. -/
theorem Same.map_swap {k l : Scalar} (hne : k ≠ l) (v w : Value) (es : List (Scalar × Value)) :
    Same (.map ((k, v) :: (l, w) :: es)) (.map ((l, w) :: (k, v) :: es)) := by
  refine .map fun key => ?_
  by_cases hk : key = k
  · simpa [List.lookup_cons, hk, beq_false_of_ne hne] using Same.refl v
  · simpa [List.lookup_cons, beq_false_of_ne hk] using lookup_same_refl ((l, w) :: es) key

/-! ## What is written -/

/-- The value that is written for a part; for what is absent there is none. -/
def present (v : Value) : Option Value := if v.isNull then none else some v.withoutNulls

@[simp] theorem present_null : present null = none := rfl

@[simp] theorem present_text (s : String) : present (text s) = some (text s) := rfl

theorem present_list (items : List Value) :
    present (.list items) = some (.list (items.map withoutNulls)) := by
  rw [← itemsWithoutNulls_eq_map]
  rfl

/-- The entries that are written for fields. -/
def written (fields : List (String × Value)) : List (Scalar × Value) :=
  entriesWithoutNulls (fields.map fun (name, v) => (.text name, v))

@[simp] theorem present_ofFields (fields : List (String × Value)) :
    present (ofFields fields) = some (.map (written fields)) := rfl

theorem isNull_withoutNulls (v : Value) : v.withoutNulls.isNull = v.isNull := by
  rcases v with (_ | _ | _ | _ | _ | _ | _ | _) | _ | _ | _ | _ <;> rfl

/-- What is written is not null. -/
theorem isNull_of_present {v w : Value} (h : present v = some w) : w.isNull = false := by
  rw [present] at h
  split at h
  · simp at h
  · rename_i hv
    obtain rfl := Option.some.inj h
    simpa [isNull_withoutNulls] using hv

theorem written_cons (f : String × Value) (fields : List (String × Value)) :
    written (f :: fields) = match present f.2 with
      | some w => (.text f.1, w) :: written fields
      | none => written fields := by
  rw [written, List.map_cons, entriesWithoutNulls_cons, present]
  cases f.2.isNull <;> rfl

theorem keysAmong_written (fields : List (String × Value)) :
    KeysAmong (fields.map Prod.fst) (written fields) := by
  intro e he
  obtain ⟨e', he', rfl⟩ := mem_entriesWithoutNulls he
  obtain ⟨f, hf, rfl⟩ := List.mem_map.mp he'
  exact ⟨f.1, List.mem_map_of_mem hf, rfl⟩

/-- What is written under a key is the field of that name, if it is present. -/
theorem lookupKey_written {fields : List (String × Value)} (hnodup : (fields.map Prod.fst).Nodup)
    {f : String × Value} (hf : f ∈ fields) : lookupKey f.1 (written fields) = present f.2 := by
  induction fields with
  | nil => simp at hf
  | cons g fields ih =>
    obtain ⟨hg, hnodup⟩ := List.nodup_cons.mp (List.map_cons ▸ hnodup)
    rw [written_cons]
    rcases List.mem_cons.mp hf with rfl | hf
    · have hnone := (keysAmong_written fields).lookupKey_eq_none hg
      cases present f.2 with
      | none => exact hnone
      | some w => simp [lookupKey]
    · have hne : g.1 ≠ f.1 := fun heq => hg (heq ▸ List.mem_map_of_mem hf)
      cases present g.2 with
      | none => exact ih hnodup hf
      | some w => simpa [lookupKey, hne] using ih hnodup hf

/-- A record is the same as a map with its keys if every field is. -/
theorem same_record {fields : List (String × Value)} {entries : List (Scalar × Value)}
    (hnodup : (fields.map Prod.fst).Nodup) (hkeys : KeysAmong (fields.map Prod.fst) entries)
    (hfields : ∀ f ∈ fields, Option.Rel Same (present f.2) (lookupKey f.1 entries)) :
    Same (.map (written fields)) (.map entries) := by
  refine .map fun k => ?_
  by_cases hk : ∃ f ∈ fields, k = .text f.1
  · obtain ⟨f, hf, rfl⟩ := hk
    rw [lookup_text, lookup_text, lookupKey_written hnodup hf]
    exact hfields f hf
  · have hother : ∀ name ∈ fields.map Prod.fst, k ≠ .text name := by
      rintro name hname rfl
      obtain ⟨f, hf, rfl⟩ := List.mem_map.mp hname
      exact hk ⟨f, hf, rfl⟩
    rw [(keysAmong_written fields).lookup_eq_none hother, hkeys.lookup_eq_none hother]
    exact .none

/-! ## Changed maps -/

/-- The entries with what is under a key changed; it may be put there or taken away. -/
def alter (key : String) (f : Option Value → Option Value) (entries : List (Scalar × Value)) :
    List (Scalar × Value) :=
  let others := entries.filter fun e => e.1 ≠ .text key
  match f (lookupKey key entries) with
  | some v => (.text key, v) :: others
  | none => others

theorem lookupKey_filter_ne (key other : String) (entries : List (Scalar × Value)) :
    lookupKey other (entries.filter fun e => e.1 ≠ .text key) =
      if other = key then none else lookupKey other entries := by
  induction entries with
  | nil => simp [lookupKey]
  | cons e rest ih =>
    obtain ⟨k, v⟩ := e
    by_cases hk : k = .text key
    · rw [List.filter_cons_of_neg (by simp [hk]), ih, lookupKey]
      by_cases ho : other = key
      · simp [ho]
      · simp [hk, ho, Ne.symm ho]
    · rw [List.filter_cons_of_pos (by simpa using hk), lookupKey, lookupKey, ih]
      by_cases ho : other = key
      · simp [hk, ho]
      · simp [ho]

/-- What is under the changed key is changed, and what is under any other key is not. -/
theorem lookupKey_alter (key other : String) (f : Option Value → Option Value)
    (entries : List (Scalar × Value)) : lookupKey other (alter key f entries) =
      if other = key then f (lookupKey key entries) else lookupKey other entries := by
  rw [alter]
  cases f (lookupKey key entries) with
  | none => exact lookupKey_filter_ne key other entries
  | some v =>
    rw [lookupKey, lookupKey_filter_ne]
    by_cases h : other = key
    · simp [h]
    · simp [h, Ne.symm h]

/-- What is under any other scalar is not changed either. -/
theorem lookup_alter_of_ne {key : String} {k : Scalar} (hk : k ≠ .text key)
    (f : Option Value → Option Value) (entries : List (Scalar × Value)) :
    (alter key f entries).lookup k = entries.lookup k := by
  have hothers : (entries.filter fun e => e.1 ≠ .text key).lookup k = entries.lookup k := by
    induction entries with
    | nil => rfl
    | cons e rest ih =>
      obtain ⟨l, v⟩ := e
      by_cases hl : l = .text key
      · rw [List.filter_cons_of_neg (by simp [hl]), ih, List.lookup_cons, hl, beq_false_of_ne hk]
      · rw [List.filter_cons_of_pos (by simpa using hl), List.lookup_cons, List.lookup_cons, ih]
  rw [Value.alter]
  cases f (lookupKey key entries) with
  | none => exact hothers
  | some v => rw [List.lookup_cons, beq_false_of_ne hk, hothers]

theorem KeysAmong.alter {names : List String} {key : String} {f : Option Value → Option Value}
    {entries : List (Scalar × Value)} (h : KeysAmong names entries) (hkey : key ∈ names) :
    KeysAmong names (alter key f entries) := by
  have hothers : KeysAmong names (entries.filter fun e => e.1 ≠ .text key) :=
    fun e he => h e (List.mem_of_mem_filter he)
  rw [Value.alter]
  cases f (lookupKey key entries) with
  | none => exact hothers
  | some v => exact List.forall_mem_cons.mpr ⟨⟨key, hkey, rfl⟩, hothers⟩

end Value

end TemplateRules
