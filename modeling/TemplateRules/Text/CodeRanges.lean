/-!
# Tables of character codes

The properties of characters beyond the seven-bit range are data of the character standard. They are
written here as that standard writes them, by hexadecimal codes: `A0` for one code, `2000-200A` for a
range, `100-12E/2>101` for every second code of a range that is mapped to the code at the same
distance from `101`, and `DF>53,53` for a code that is mapped to several.
-/

namespace TemplateRules.Text

/-! ## Reading the notation -/

/-- The value of a hexadecimal digit. -/
def hexValue? (c : Char) : Option Nat :=
  if '0' ≤ c && c ≤ '9' then some (c.toNat - 0x30)
  else if 'A' ≤ c && c ≤ 'F' then some (c.toNat - 0x37)
  else if 'a' ≤ c && c ≤ 'f' then some (c.toNat - 0x57)
  else none

/-- The number that a run of hexadecimal digits writes; other characters count as zero. -/
def hexNumber (cs : List Char) : Nat :=
  cs.foldl (fun n c => n * 16 + (hexValue? c).getD 0) 0

/-- The stretches between the separators, empty ones included. -/
def splitOn (isSeparator : Char → Bool) : List Char → List (List Char)
  | [] => [[]]
  | c :: cs =>
    if isSeparator c then [] :: splitOn isSeparator cs
    else match splitOn isSeparator cs with
      | [] => [[c]]
      | w :: ws => (c :: w) :: ws

/-- The words of a table. -/
def tableWords (source : String) : List (List Char) :=
  (splitOn (fun c => c == ' ' || c == '\n') source.toList).filter (!·.isEmpty)

/-- A list of single codes. -/
def readCodes (source : String) : List Nat := (tableWords source).map hexNumber

/-- A list of families of codes. -/
def readFamilies (source : String) : List (List Nat) :=
  (tableWords source).map fun w => (splitOn (· == ',') w).map hexNumber

/-- A list of codes that are mapped to several codes each. -/
def readExpansions (source : String) : List (Nat × List Nat) :=
  (tableWords source).filterMap fun w =>
    match splitOn (· == '>') w with
    | [code, image] => some (hexNumber code, (splitOn (· == ',') image).map hexNumber)
    | _ => none

/-! ## Ranges -/

/-- A set of characters, by the ranges of their codes. -/
structure CodeRanges where
  /-- First and last code of each range. -/
  spans : Array (Nat × Nat)

namespace CodeRanges

/-- Reads ranges from their notation. -/
def read (source : String) : CodeRanges where
  spans := ((tableWords source).filterMap fun w =>
    match splitOn (· == '-') w with
    | [code] => some (hexNumber code, hexNumber code)
    | [first, last] => some (hexNumber first, hexNumber last)
    | _ => none).toArray

/-- Whether a range holds the character. -/
def contains (r : CodeRanges) (c : Char) : Bool :=
  let n := c.toNat
  r.spans.any fun (first, last) => first ≤ n && n ≤ last

end CodeRanges

/-! ## Maps -/

/-- A run of codes, `step` apart from `first` to `last`, mapped in step to codes from `image` on. -/
structure CodeRun where
  first : Nat
  last : Nat
  step : Nat
  image : Nat

/-- A map from characters to characters that keeps those that no run holds. -/
structure CodeMap where
  runs : Array CodeRun

namespace CodeMap

/-- Reads a map from its notation. -/
def read (source : String) : CodeMap where
  runs := ((tableWords source).filterMap fun w =>
    match splitOn (· == '>') w with
    | [codes, image] =>
      let (range, step) := match splitOn (· == '/') codes with
        | [range, step] => (range, hexNumber step)
        | _ => (codes, 1)
      match splitOn (· == '-') range with
      | [first, last] => some ⟨hexNumber first, hexNumber last, step, hexNumber image⟩
      | _ => some ⟨hexNumber range, hexNumber range, step, hexNumber image⟩
    | _ => none).toArray

/-- The image of a character. -/
def apply (m : CodeMap) (c : Char) : Char :=
  let n := c.toNat
  match m.runs.find? fun r => r.first ≤ n && n ≤ r.last && (n - r.first) % r.step == 0 with
  | some r => Char.ofNat (r.image + (n - r.first))
  | none => c

/-- The characters that runs map to `c`. -/
def sources (m : CodeMap) (c : Char) : List Char :=
  let n := c.toNat
  m.runs.toList.filterMap fun r =>
    if r.image ≤ n && n ≤ r.image + (r.last - r.first) && (n - r.image) % r.step == 0 then
      some (Char.ofNat (r.first + (n - r.image)))
    else none

end CodeMap

end TemplateRules.Text
