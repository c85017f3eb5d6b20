import TemplateRules.Text.Blank
import TemplateRules.Text.Search
import TemplateRules.Trace

/-!
# Partials

A rule document may name texts that its contents include by markers: two opening braces, `>`, a name
between optional blanks, and two closing braces. Markers are expanded in one pass, so the text of a
partial is not searched for markers again, and a marker of an undefined name stays as it is. Where no
partials are defined nothing is touched.
-/

namespace TemplateRules.Partials

open Text

/-! ## Markers -/

/-- How a marker begins. -/
def opening : List Char := ['\x7b', '\x7b', '>']

/-- How a marker ends. -/
def closing : List Char := ['\x7d', '\x7d']

/-- A stretch of content: a character, or a marker by what stands inside it. -/
inductive Segment where
  | char (c : Char)
  | marker (inside : List Char)
deriving DecidableEq

/-- What stands inside the marker that the characters begin with: at least one character, and no
closing brace. -/
def insideMarker? (cs : List Char) : Option (List Char) :=
  if opening.isPrefixOf cs then
    let rest := cs.drop 3
    let inside := rest.takeWhile (· != '\x7d')
    if !inside.isEmpty && closing.isPrefixOf (rest.dropWhile (· != '\x7d')) then some inside else none
  else none

/-- The segments of content, where the first `skip` characters belong to a marker that has begun. -/
def segmentsFrom : (skip : Nat) → List Char → List Segment
  | _, [] => []
  | skip + 1, _ :: cs => segmentsFrom skip cs
  | 0, c :: cs =>
    match insideMarker? (c :: cs) with
    | some inside => .marker inside :: segmentsFrom (inside.length + 4) cs
    | none => .char c :: segmentsFrom 0 cs

/-- The segments of content. -/
def segments (content : String) : List Segment := segmentsFrom 0 content.toList

/-! ## Expansion -/

/-- The name that a marker refers to. -/
def nameOf (inside : List Char) : String := String.ofList (stripChars inside)

/-- The text that a segment stands for. -/
def Segment.expansion (partials : List (String × String)) : Segment → List Char
  | .char c => [c]
  | .marker inside =>
    match partials.lookup (nameOf inside) with
    | some body => body.toList
    | none => opening ++ inside ++ closing

/-- The content with its markers expanded. -/
def expanded (content : String) (partials : List (String × String)) : String :=
  if partials.isEmpty then content
  else String.ofList ((segments content).flatMap (Segment.expansion partials))

/-- The record that the expansion of a segment leaves. -/
def Segment.record? (partials : List (String × String)) : Segment → Option Record
  | .char _ => none
  | .marker inside =>
    let name := nameOf inside
    match partials.lookup name with
    | some _ => some ⟨.debug, .engine, "Expanded partial '" ++ name ++ "' in content"⟩
    | none => some ⟨.warning, .engine, "Partial '" ++ name ++ "' referenced but not defined"⟩

/-- Expands the markers of content and leaves a record of each. -/
def expand (content : String) (partials : List (String × String)) : Traced String :=
  ⟨expanded content partials,
    if partials.isEmpty then [] else (segments content).filterMap (Segment.record? partials)⟩

end TemplateRules.Partials
