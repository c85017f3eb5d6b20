import Mathlib.Data.List.Nodup
import TemplateRules.Proofs.DigestParts

/-!
# Digests on lists

The words of a schedule are an array that grows at its end and is read from there. Listed from the last one on,
they grow at the head, and the next word comes of the first sixteen of them. On lists the kernel computes the
digests of texts of many blocks, and with them it tells given texts, and streams of records of given parts,
apart.

## Main definitions

* `Digest.bytesOf`: the bytes of a text
* `Digest.digestOf`: the digits of the digest of bytes
* `Digest.streamBytes`: the bytes of the stream of records of parts

## Main results

* `Digest.toList_sha256`, `Digest.bytesOf_partStream`: digests and streams are what is computed on lists
* `Digest.injOn_sha256`, `Digest.injOn_sha256_partStream`: what is told apart on lists has different digests
-/

namespace TemplateRules.Digest

/-! ## Blocks -/

/-- The word that follows words, which are listed from the last one on. -/
def wordBehind (words : List UInt32) : UInt32 :=
  let back (n : Nat) : UInt32 := (words[n - 1]?).getD 0
  let x := back 15
  let y := back 2
  let s0 := rotate x 7 ^^^ rotate x 18 ^^^ (x >>> 3)
  let s1 := rotate y 17 ^^^ rotate y 19 ^^^ (y >>> 10)
  back 16 + s0 + back 7 + s1

/-- The words of a schedule from the last one on. -/
def wordsBehind (block : List UInt32) : List UInt32 :=
  (List.range 48).foldl (fun words _ => wordBehind words :: words) block.reverse

/-- The rounds of a block. -/
def State.rounds (s : State) (block : List UInt32) : State :=
  ((wordsBehind block).reverse.zip roundConstants.toList).foldl (fun s (w, k) => s.round w k) s

/-- Mixes a listed block into a state. -/
def State.absorbList (s : State) (block : List UInt32) : State :=
  let t := s.rounds block
  ⟨s.a + t.a, s.b + t.b, s.c + t.c, s.d + t.d, s.e + t.e, s.f + t.f, s.g + t.g, s.h + t.h⟩

/-- Absorbs words in listed blocks of sixteen. -/
def absorbLists (s : State) (filled : List UInt32) : List UInt32 → State
  | [] => s
  | w :: ws =>
    let block := filled ++ [w]
    if block.length == 16 then absorbLists (s.absorbList block) [] ws else absorbLists s block ws

theorem getElem?_size_sub {α : Type} (xs : Array α) {n : Nat} (hpos : 0 < n) (hn : n ≤ xs.size) :
    xs[xs.size - n]? = xs.toList.reverse[n - 1]? := by
  rw [List.getElem?_reverse (by simp; omega), Array.length_toList, Array.getElem?_toList]
  congr 1
  omega

theorem nextWord_eq {words : Array UInt32} (h : 16 ≤ words.size) :
    nextWord words = wordBehind words.toList.reverse := by
  simp only [nextWord, wordBehind]
  rw [getElem?_size_sub words (n := 15), getElem?_size_sub words (n := 2), getElem?_size_sub words (n := 16),
    getElem?_size_sub words (n := 7)] <;> omega

theorem toList_foldl_nextWord (ns : List Nat) {words : Array UInt32} (h : 16 ≤ words.size) :
    (ns.foldl (fun w _ => w.push (nextWord w)) words).toList.reverse =
      ns.foldl (fun words _ => wordBehind words :: words) words.toList.reverse := by
  induction ns generalizing words with
  | nil => rfl
  | cons n ns ih =>
    rw [List.foldl_cons, List.foldl_cons, ih (by simp; omega), Array.toList_push, List.reverse_append,
      nextWord_eq h]
    rfl

theorem toList_schedule {block : Array UInt32} (h : block.size = 16) :
    (schedule block).toList = (wordsBehind block.toList).reverse := by
  rw [wordsBehind, ← toList_foldl_nextWord _ (Nat.le_of_eq h.symm), List.reverse_reverse, schedule]

theorem absorb_eq (s : State) {block : Array UInt32} (h : block.size = 16) :
    s.absorb block = s.absorbList block.toList := by
  rw [State.absorb, State.absorbList, State.rounds, ← toList_schedule h, ← Array.toList_zip,
    Array.foldl_toList]

theorem absorbWords_eq (s : State) (filled : Array UInt32) (ws : List UInt32) :
    absorbWords s filled ws = absorbLists s filled.toList ws := by
  induction ws generalizing s filled with
  | nil => rfl
  | cons w ws ih =>
    rw [absorbWords, absorbLists, ← Array.toList_push, Array.length_toList]
    by_cases hfull : (filled.push w).size = 16
    · rw [if_pos (by simpa using hfull), if_pos (by simpa using hfull), ih, absorb_eq s hfull]
    · rw [if_neg (by simpa using hfull), if_neg (by simpa using hfull), ih]

/-! ## Bytes -/

/-- The bytes of a text. -/
def bytesOf (text : String) : List UInt8 := text.toUTF8.data.toList

theorem bytesOf_eq (text : String) : bytesOf text = text.toList.flatMap String.utf8EncodeChar := by
  have hbytes : text.toUTF8 = (text.toList.flatMap String.utf8EncodeChar).toByteArray :=
    String.utf8Encode_toList.symm
  rw [bytesOf, hbytes, List.data_toByteArray]

theorem toList_loop (bytes : ByteArray) (i : Nat) (before : List UInt8) :
    ByteArray.toList.loop bytes i before = before.reverse ++ bytes.data.toList.drop i := by
  fun_induction ByteArray.toList.loop bytes i before with
  | case1 i before hi ih =>
    have hlength : i < bytes.data.toList.length := hi
    have hget : bytes.get! i = bytes.data.toList[i] := getElem!_pos bytes.data i hi
    rw [ih, List.reverse_cons, List.append_assoc, hget, List.drop_eq_getElem_cons hlength]
    rfl
  | case2 i before hi => rw [List.drop_eq_nil_of_le (by simpa using hi), List.append_nil]

/-! ## Digests -/

/-- The digits of the digest of bytes. -/
def digestOf (bytes : List UInt8) : List Char :=
  let s := absorbLists .first [] (wordsOf (padMessage bytes))
  [s.a, s.b, s.c, s.d, s.e, s.f, s.g, s.h].flatMap wordHex

theorem toList_sha256 (text : String) : (sha256 text).toList = digestOf (bytesOf text) := by
  have hbytes : text.toUTF8.toList = bytesOf text := toList_loop _ 0 []
  rw [sha256, sha256Bytes, String.toList_ofList, absorbWords_eq, hbytes, digestOf]

/-- The bytes of the stream of records of parts. -/
def streamBytes : List Part → List UInt8
  | [] => []
  | part :: parts =>
    let digest := (part.2.map fun text => digestOf (bytesOf text)).getD ['-']
    bytesOf part.1 ++ ([':'] ++ digest ++ [';']).flatMap String.utf8EncodeChar ++ streamBytes parts

theorem bytesOf_partStream (parts : List Part) : bytesOf (partStream parts) = streamBytes parts := by
  induction parts with
  | nil => rfl
  | cons part parts ih =>
    have hdigest : (partDigest part.2).toList =
        (part.2.map fun text => digestOf (bytesOf text)).getD ['-'] := by
      cases part.2 with
      | none => rfl
      | some text => exact toList_sha256 text
    rw [bytesOf_eq, toList_partStream_cons, hdigest, streamBytes, ← ih, bytesOf_eq, bytesOf_eq]
    simp

/-! ## Texts that are told apart -/

theorem nodup_map_sha256 {texts : List String} (h : (texts.map fun t => digestOf (bytesOf t)).Nodup) :
    (texts.map sha256).Nodup := by
  refine List.Nodup.of_map String.toList ?_
  rw [List.map_map]
  exact (List.map_congr_left fun t _ => toList_sha256 t) ▸ h

/-- Texts whose digests are different are told apart by them. -/
theorem injOn_sha256 {texts : List String} (h : (texts.map fun t => digestOf (bytesOf t)).Nodup) :
    Set.InjOn sha256 {t | t ∈ texts} :=
  fun _ hs _ ht heq => List.inj_on_of_nodup_map (nodup_map_sha256 h) hs ht heq

/-- Parts whose streams have different digests are told apart by them. -/
theorem injOn_sha256_partStream {keys : List (List Part)}
    (h : (keys.map fun ps => digestOf (streamBytes ps)).Nodup) :
    Set.InjOn sha256 {s | ∃ ps ∈ keys, s = partStream ps} := by
  have hstreams : ((keys.map partStream).map fun t => digestOf (bytesOf t)).Nodup := by
    rw [List.map_map]
    simpa only [Function.comp_def, bytesOf_partStream] using h
  exact (injOn_sha256 hstreams).mono fun s ⟨ps, hps, hs⟩ => hs ▸ List.mem_map_of_mem hps

end TemplateRules.Digest
