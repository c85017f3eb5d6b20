import Mathlib.Data.Set.Function
import TemplateRules.Digest.Fingerprint
import TemplateRules.Proofs.CanonicalText
import TemplateRules.Proofs.Characters

/-!
# Fingerprints tell their parts

What the outer digest of a fingerprint is taken of holds the digest of each part between its label and a
semicolon, and no digest holds a semicolon or is a dash. So where digests do not collide on the texts that
they are taken of, equal fingerprints of parts with the same labels have equal parts. If no label holds a
colon, then the labels can be read off as well, whatever else they hold.

## Main definitions

* `Digest.outerBytes`: the bytes that the outer digest is taken of
* `Digest.Part.SameRecord`: parts with the same label and the same digest, or both without a value

## Main results

* `Digest.outerBytes_eq_iff`: the bytes are the same just for parts with the same records, in order
* `Digest.partStream_inj`: equal streams hold equal digests
* `Digest.fingerprint_inj`: without collisions, equal fingerprints have equal parts
-/

namespace TemplateRules.Digest

open Text (append_cons_inj hexText)

/-! ## The characters of a digest -/

theorem exists_digitChar_of_mem_toDigits {n : Nat} {c : Char} (hc : c ∈ Nat.toDigits 16 n) :
    ∃ d < 16, c = Nat.digitChar d := by
  induction n using Nat.strongRecOn with
  | ind n ih =>
    rcases Nat.lt_or_ge n 16 with h | h
    · rw [Nat.toDigits_of_lt_base h, List.mem_singleton] at hc
      exact ⟨n, h, hc⟩
    · rw [Nat.toDigits_of_base_le (by decide) h, List.mem_append, List.mem_singleton] at hc
      rcases hc with hc | hc
      · exact ih (n / 16) (by omega) hc
      · exact ⟨n % 16, by omega, hc⟩

/-- Every character of a digest is a hexadecimal digit. -/
theorem exists_digitChar_of_mem_sha256 {text : String} {c : Char} (hc : c ∈ (sha256 text).toList) :
    ∃ d < 16, c = Nat.digitChar d := by
  rw [sha256, sha256Bytes, String.toList_ofList, List.mem_flatMap] at hc
  obtain ⟨word, -, hc⟩ := hc
  rcases List.mem_append.mp hc with hzero | hdigit
  · exact ⟨0, by decide, List.eq_of_mem_replicate hzero⟩
  · exact exists_digitChar_of_mem_toDigits hdigit

theorem not_mem_sha256 {text : String} {c : Char} (hc : ∀ d : Fin 16, c ≠ Nat.digitChar d) :
    c ∉ (sha256 text).toList := by
  intro hmem
  obtain ⟨d, hd, rfl⟩ := exists_digitChar_of_mem_sha256 hmem
  exact hc ⟨d, hd⟩ rfl

/-! ## Streams of records -/

/-- What stands for a part in its record. -/
def partDigest (value : Option String) : String := (value.map sha256).getD "-"

theorem semicolon_not_mem_partDigest (value : Option String) : ';' ∉ (partDigest value).toList := by
  cases value with
  | none => decide
  | some text => exact not_mem_sha256 (by decide)

/-- No digest is the dash that stands for a missing value. -/
theorem sha256_ne_dash (text : String) : sha256 text ≠ "-" := by
  intro heq
  have hmem : '-' ∉ (sha256 text).toList := not_mem_sha256 (by decide)
  rw [heq] at hmem
  exact hmem (by decide)

theorem partDigest_eq_iff {v w : Option String} :
    partDigest v = partDigest w ↔ Option.Rel (fun s t => sha256 s = sha256 t) v w := by
  cases v with
  | none =>
    cases w with
    | none => simp [Option.rel_none_none]
    | some t => simp [partDigest, (sha256_ne_dash t).symm]
  | some s =>
    cases w with
    | none => simp [partDigest, sha256_ne_dash s]
    | some t => simp [partDigest]

/-- A semicolon ends a digest. -/
theorem partDigest_append_inj {v w : Option String} {r s : List Char}
    (h : (partDigest v).toList ++ ';' :: r = (partDigest w).toList ++ ';' :: s) :
    partDigest v = partDigest w ∧ r = s := by
  obtain ⟨hdigest, hrest⟩ :=
    append_cons_inj (semicolon_not_mem_partDigest v) (semicolon_not_mem_partDigest w) h
  exact ⟨String.toList_inj.mp hdigest, hrest⟩

theorem toList_partStream_cons (part : Part) (parts : List Part) :
    (partStream (part :: parts)).toList =
      part.1.toList ++ ':' :: ((partDigest part.2).toList ++ ';' :: (partStream parts).toList) := by
  simp [partStream, String.toList_join, partRecord, partDigest]

/-- Equal streams of parts with the same labels hold equal digests. -/
theorem partStream_inj {ps qs : List Part} (hlabels : ps.map (·.1) = qs.map (·.1))
    (h : (partStream ps).toList = (partStream qs).toList) :
    ps.map (partDigest ·.2) = qs.map (partDigest ·.2) := by
  induction ps generalizing qs with
  | nil =>
    obtain rfl : qs = [] := by simpa using hlabels.symm
    rfl
  | cons p ps ih =>
    cases qs with
    | nil => simp at hlabels
    | cons q qs =>
      rw [List.map_cons, List.map_cons, List.cons.injEq] at hlabels
      rw [toList_partStream_cons, toList_partStream_cons, hlabels.1, List.append_cancel_left_eq,
        List.cons.injEq] at h
      obtain ⟨hdigest, hrest⟩ := partDigest_append_inj h.2
      rw [List.map_cons, List.map_cons, hdigest, ih hlabels.2 hrest]

/-! ## Reading records back -/

/-- The bytes that the outer digest of a fingerprint is taken of. -/
def outerBytes (parts : List Part) : ByteArray := (partStream parts).toUTF8

theorem fingerprint_eq_sha256Bytes (parts : List Part) :
    fingerprint parts = sha256Bytes (outerBytes parts).toList := rfl

theorem outerBytes_eq_iff_toList {ps qs : List Part} :
    outerBytes ps = outerBytes qs ↔ (partStream ps).toList = (partStream qs).toList :=
  String.toByteArray_inj.trans String.toList_inj.symm

/-- Two parts have the same label, and either both have no value or their values have the same digest. -/
structure Part.SameRecord (p q : Part) : Prop where
  label : p.1 = q.1
  value : Option.Rel (fun s t => sha256 s = sha256 t) p.2 q.2

theorem partRecord_eq_of_sameRecord {p q : Part} (h : p.SameRecord q) : partRecord p = partRecord q := by
  have hdigest : partDigest p.2 = partDigest q.2 := partDigest_eq_iff.mpr h.value
  rw [partDigest, partDigest] at hdigest
  rw [partRecord, partRecord, h.label, hdigest]

/-- The first record of a stream ends where its digest ends: the first colon ends the label, and the
semicolon after it ends the digest. -/
theorem partStream_cons_inj {p q : Part} {ps qs : List Part} (hp : ':' ∉ p.1.toList) (hq : ':' ∉ q.1.toList)
    (h : (partStream (p :: ps)).toList = (partStream (q :: qs)).toList) :
    p.SameRecord q ∧ (partStream ps).toList = (partStream qs).toList := by
  rw [toList_partStream_cons, toList_partStream_cons] at h
  obtain ⟨hlabel, hrecord⟩ := append_cons_inj hp hq h
  obtain ⟨hdigest, hrest⟩ := partDigest_append_inj hrecord
  exact ⟨⟨String.toList_inj.mp hlabel, partDigest_eq_iff.mp hdigest⟩, hrest⟩

theorem toList_partStream_cons_ne_nil (part : Part) (parts : List Part) :
    (partStream (part :: parts)).toList ≠ [] := by
  simp [toList_partStream_cons]

/-- Streams of parts whose labels hold no colon have the same records, one by one. -/
theorem forall₂_sameRecord_of_toList_eq {ps qs : List Part} (hps : ∀ p ∈ ps, ':' ∉ p.1.toList)
    (hqs : ∀ q ∈ qs, ':' ∉ q.1.toList) (h : (partStream ps).toList = (partStream qs).toList) :
    List.Forall₂ Part.SameRecord ps qs := by
  induction ps generalizing qs with
  | nil =>
    cases qs with
    | nil => exact .nil
    | cons q qs => exact absurd h.symm (toList_partStream_cons_ne_nil q qs)
  | cons p ps ih =>
    cases qs with
    | nil => exact absurd h (toList_partStream_cons_ne_nil p ps)
    | cons q qs =>
      rw [List.forall_mem_cons] at hps hqs
      obtain ⟨hrecord, hrest⟩ := partStream_cons_inj hps.1 hqs.1 h
      exact .cons hrecord (ih hps.2 hqs.2 hrest)

theorem partStream_eq_of_forall₂ {ps qs : List Part} (h : List.Forall₂ Part.SameRecord ps qs) :
    partStream ps = partStream qs := by
  have hrecords : ps.map partRecord = qs.map partRecord := by
    induction h with
    | nil => rfl
    | cons hrecord _ ih => rw [List.map_cons, List.map_cons, partRecord_eq_of_sameRecord hrecord, ih]
  rw [partStream, partStream, hrecords]

/-- **What a fingerprint is taken of can be read back.** For parts whose labels hold no colon, whatever else
they hold, the bytes that the outer digest is taken of are the same if and only if there are as many parts,
with the same labels in the same order, without a value at the same places, and elsewhere with values of the
same digest. -/
theorem outerBytes_eq_iff {ps qs : List Part} (hps : ∀ p ∈ ps, ':' ∉ p.1.toList)
    (hqs : ∀ q ∈ qs, ':' ∉ q.1.toList) :
    outerBytes ps = outerBytes qs ↔ List.Forall₂ Part.SameRecord ps qs := by
  rw [outerBytes_eq_iff_toList]
  constructor
  · intro h
    exact forall₂_sameRecord_of_toList_eq hps hqs h
  · intro h
    rw [partStream_eq_of_forall₂ h]

/-- Two parts of which the first has no value and the second is a dash. -/
def missingThenDash : List Part := [("a;b", none), ("c;-", some "-")]

/-- Two parts with the same labels of which the first is a dash and the second has no value. -/
def dashThenMissing : List Part := [("a;b", some "-"), ("c;-", none)]

/-- A part that is a dash is told apart from one without a value, between labels with semicolons. -/
theorem outerBytes_missingThenDash_ne : (∀ p ∈ missingThenDash, ':' ∉ p.1.toList) ∧
    (∀ q ∈ dashThenMissing, ':' ∉ q.1.toList) ∧ outerBytes missingThenDash ≠ outerBytes dashThenMissing := by
  have hmissing : ∀ p ∈ missingThenDash, ':' ∉ p.1.toList := by decide
  have hdash : ∀ q ∈ dashThenMissing, ':' ∉ q.1.toList := by decide
  refine ⟨hmissing, hdash, fun h => ?_⟩
  obtain ⟨⟨-, hvalue⟩, -⟩ := List.forall₂_cons.mp ((outerBytes_eq_iff hmissing hdash).mp h)
  cases hvalue

/-- A label with a colon can be read as the records of two parts. -/
example : partStream [("a:-;b", none)] = partStream [("a", none), ("b", none)] := by decide

/-! ## Fingerprints -/

theorem partDigest_inj {texts : Set String} (hsha : Set.InjOn sha256 texts) {v w : Option String}
    (hv : ∀ s ∈ v, s ∈ texts) (hw : ∀ s ∈ w, s ∈ texts) (h : partDigest v = partDigest w) : v = w := by
  rcases partDigest_eq_iff.mp h with hdigest | _
  · exact congrArg some (hsha (hv _ rfl) (hw _ rfl) hdigest)
  · rfl

theorem parts_eq_of_map_partDigest {texts : String → Set String}
    (hsha : ∀ label, Set.InjOn sha256 (texts label)) {ps qs : List Part}
    (hps : ∀ p ∈ ps, ∀ s ∈ p.2, s ∈ texts p.1) (hqs : ∀ q ∈ qs, ∀ s ∈ q.2, s ∈ texts q.1)
    (hlabels : ps.map (·.1) = qs.map (·.1))
    (h : ps.map (partDigest ·.2) = qs.map (partDigest ·.2)) : ps = qs := by
  induction ps generalizing qs with
  | nil => simpa using hlabels.symm
  | cons p ps ih =>
    cases qs with
    | nil => simp at hlabels
    | cons q qs =>
      rw [List.map_cons, List.map_cons, List.cons.injEq] at hlabels h
      rw [List.forall_mem_cons] at hps hqs
      have hvalue := partDigest_inj (hsha p.1) hps.1 (hlabels.1 ▸ hqs.1) h.1
      rw [Prod.ext hlabels.1 hvalue, ih hps.2 hqs.2 hlabels.2 h.2]

/-- Where digests collide neither on the texts of parts of one label nor on the streams of records, equal
fingerprints of parts with the same labels have equal parts. -/
theorem fingerprint_inj {texts : String → Set String} {streams : Set String}
    (hparts : ∀ label, Set.InjOn sha256 (texts label)) (hstreams : Set.InjOn sha256 streams)
    {ps qs : List Part} (hps : ∀ p ∈ ps, ∀ s ∈ p.2, s ∈ texts p.1)
    (hqs : ∀ q ∈ qs, ∀ s ∈ q.2, s ∈ texts q.1) (hpstream : partStream ps ∈ streams)
    (hqstream : partStream qs ∈ streams) (hlabels : ps.map (·.1) = qs.map (·.1))
    (h : fingerprint ps = fingerprint qs) : ps = qs := by
  have hequal : partStream ps = partStream qs := hstreams hpstream hqstream h
  exact parts_eq_of_map_partDigest hparts hps hqs hlabels
    (partStream_inj hlabels (congrArg String.toList hequal))

end TemplateRules.Digest
