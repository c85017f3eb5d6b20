import TemplateRules.Proofs.SameValue
import TemplateRules.Text.Blank
import TemplateRules.Text.Case

/-!
# The normal form of raw documents

Binding a document forgets a few things about the value that it is bound from, and nothing else: whether a
list of rules was absent or empty, how the kind of a replacement was written, whether a version was a number,
and whether the metadata were null or absent. The normal form of a value makes these choices once. The names
of partials may besides be given as bytes; they are then the texts that the bytes encode.

## Main definitions

* `Value.normalForm`: a raw document with every such choice made
* `Value.namesAsTexts`: a raw document with texts as the names of its partials
-/

namespace TemplateRules.Value

/-- The list with each item changed. -/
def eachItem (f : Value → Value) : Value → Value
  | .list items => .list (items.map f)
  | v => v

/-- What is under a key, or else a default. -/
def orDefault (default : Value) (v : Option Value) : Option Value := v.or (some default)

/-! ## Parts -/

/-- A version; a number counts as its text. -/
def normalVersion : Value → Value
  | .scalar s => if s.isNumber then text s.plain else .scalar s
  | v => v

/-- Metadata with a version that is a text. -/
def normalMetadata : Value → Value
  | .map entries => .map (alter "version" (Option.map normalVersion) entries)
  | v => v

/-- The kind of a replacement, in lower case and without blanks around it. -/
def normalKind : Value → Value
  | .scalar (.text s) => text (Text.lower (Text.strip s))
  | v => v

/-- The kind of a replacement, which is a literal one unless it is given. -/
def normalKind? (kind : Option Value) : Option Value := orDefault (text "string") (kind.map normalKind)

mutual

/-- A replacement whose kind is normal at every level of its chain. -/
def normalReplacement : Value → Value
  | .map entries => .map (alter "type" normalKind? (normalFallback entries))
  | .scalar s => .scalar s
  | .list items => .list items
  | .pair a b => .pair a b
  | .members keys => .members keys

/-- The entries of a replacement with a normal fallback. -/
def normalFallback : List (Scalar × Value) → List (Scalar × Value)
  | [] => []
  | (k, v) :: rest =>
    (k, if k = .text "fallback" then normalReplacement v else v) :: normalFallback rest

end

/-! ## Documents -/

/-- The entries of a raw document in normal form: absent lists of rules are empty and absent partials an
empty map, the kinds of replacements are normal, a version that is a number is its text, and metadata that
are null are absent. -/
def normalEntries (entries : List (Scalar × Value)) : List (Scalar × Value) :=
  entries
    |> alter "metadata" (Option.filter fun v => !v.isNull)
    |> alter "metadata" (Option.map normalMetadata)
    |> alter "replacements" (Option.map (eachItem normalReplacement))
    |> alter "replacements" (orDefault (.list []))
    |> alter "insertions" (orDefault (.list []))
    |> alter "smartReplacements" (orDefault (.list []))
    |> alter "smartInsertions" (orDefault (.list []))
    |> alter "partials" (orDefault (.map []))

/-- The normal form of a raw document. -/
def normalForm : Value → Value
  | .map entries => .map (normalEntries entries)
  | v => v

/-- A key, which is the text that it encodes if it is given as bytes. -/
def decodedKey : Scalar → Scalar
  | .bytes bs =>
    match String.fromUTF8? ⟨bs.toArray⟩ with
    | some s => .text s
    | none => .bytes bs
  | k => k

/-- A map with its keys decoded; of several entries that have one key then, the last one counts. -/
def decodedKeys : Value → Value
  | .map entries =>
    .map ((entries.map fun e => (decodedKey e.1, e.2)).foldl (fun es e => putEntry e.1 e.2 es) [])
  | v => v

/-- A raw document with texts as the names of its partials. -/
def namesAsTexts : Value → Value
  | .map entries => .map (alter "partials" (Option.map decodedKeys) entries)
  | v => v

/-! ## Keys of normal forms -/

theorem eachItem_id : eachItem id = id := by
  funext v
  cases v <;> simp [eachItem]

theorem lookupKey_normalFallback (key : String) (entries : List (Scalar × Value)) :
    lookupKey key (normalFallback entries) =
      (lookupKey key entries).map (if key = "fallback" then normalReplacement else id) := by
  induction entries with
  | nil => rfl
  | cons e rest ih =>
    obtain ⟨k, v⟩ := e
    rw [normalFallback, lookupKey, lookupKey, ih]
    by_cases hk : k = .text key
    · by_cases hf : key = "fallback" <;> simp [hk, hf]
    · simp [hk]

theorem KeysAmong.normalFallback {names : List String} {entries : List (Scalar × Value)}
    (h : KeysAmong names entries) : KeysAmong names (normalFallback entries) := by
  induction entries with
  | nil => exact h
  | cons e rest ih =>
    obtain ⟨he, hrest⟩ := List.forall_mem_cons.mp h
    exact List.forall_mem_cons.mpr ⟨he, ih hrest⟩

theorem KeysAmong.normalEntries {names : List String} {entries : List (Scalar × Value)}
    (h : KeysAmong names entries) (hnames : ∀ key ∈ ["metadata", "replacements", "insertions",
      "smartReplacements", "smartInsertions", "partials"], key ∈ names) :
    KeysAmong names (normalEntries entries) := by
  simp only [List.forall_mem_cons] at hnames
  obtain ⟨hmetadata, hreplacements, hinsertions, hsmartReplacements, hsmartInsertions, hpartials, -⟩ :=
    hnames
  exact h.alter hmetadata |>.alter hmetadata |>.alter hreplacements |>.alter hreplacements
    |>.alter hinsertions |>.alter hsmartReplacements |>.alter hsmartInsertions |>.alter hpartials

end TemplateRules.Value
