import Mathlib.Data.List.TakeWhile
import TemplateRules.Edit.Partial

/-!
# Segments of content

Content is cut into characters and markers, and nothing is lost: the segments, put down as they are
written, are the content. Expansion changes the segments that name a partial, and no others.

## Main definitions

* `Partials.Segment.written`: a segment as it stands in the content
* `Partials.Segment.body?`: the text of the partial that a segment names

## Main results

* `Partials.written_segments`: the segments of content are the content
* `Partials.Segment.expansion_eq`: what a segment is expanded to
-/

namespace TemplateRules.Partials

/-- A segment as it stands in the content. -/
def Segment.written : Segment → List Char
  | .char c => [c]
  | .marker inside => opening ++ inside ++ closing

/-- The text of the partial that a segment names. -/
def Segment.body? (partials : List (String × String)) : Segment → Option String
  | .char _ => none
  | .marker inside => partials.lookup (nameOf inside)

/-- A segment that names a partial is expanded to its text, and another one stays as it is written. -/
theorem Segment.expansion_eq (partials : List (String × String)) (s : Segment) :
    s.expansion partials = ((s.body? partials).map String.toList).getD s.written := by
  cases s with
  | char c => rfl
  | marker inside =>
    rw [expansion, body?]
    cases partials.lookup (nameOf inside) <;> rfl

theorem Segment.expansion_of_body? {partials : List (String × String)} {s : Segment} {body : String}
    (h : s.body? partials = some body) : s.expansion partials = body.toList := by
  rw [s.expansion_eq, h, Option.map_some, Option.getD_some]

theorem Segment.expansion_of_body?_eq_none {partials : List (String × String)} {s : Segment}
    (h : s.body? partials = none) : s.expansion partials = s.written := by
  rw [s.expansion_eq, h, Option.map_none, Option.getD_none]

/-- What stands inside a marker is followed by the end of the marker. -/
theorem eq_of_insideMarker? {cs inside : List Char} (h : insideMarker? cs = some inside) :
    ∃ rest, cs = opening ++ inside ++ closing ++ rest := by
  rw [insideMarker?] at h
  split at h
  · rename_i hopening
    obtain ⟨tail, rfl⟩ := List.isPrefixOf_iff_prefix.mp hopening
    simp only [show (opening ++ tail).drop 3 = tail from rfl] at h
    split at h
    · rename_i hclosing
      obtain rfl := Option.some.inj h
      rw [Bool.and_eq_true] at hclosing
      obtain ⟨rest, hrest⟩ := List.isPrefixOf_iff_prefix.mp hclosing.2
      refine ⟨rest, ?_⟩
      rw [List.append_assoc, hrest, List.append_assoc, List.takeWhile_append_dropWhile]
    · simp at h
  · simp at h

theorem written_segmentsFrom (skip : Nat) (cs : List Char) :
    (segmentsFrom skip cs).flatMap Segment.written = cs.drop skip := by
  induction cs generalizing skip with
  | nil => simp [segmentsFrom]
  | cons c cs ih =>
    cases skip with
    | succ skip => exact ih skip
    | zero =>
      rw [segmentsFrom]
      cases hinside : insideMarker? (c :: cs) with
      | none => simp [ih, Segment.written]
      | some inside =>
        obtain ⟨rest, hrest⟩ := eq_of_insideMarker? hinside
        have hdrop : cs.drop (inside.length + 4) = rest := by
          have hlength : (opening ++ inside ++ closing).length = inside.length + 4 + 1 := by
            simp [opening, closing]
          rw [← List.drop_succ_cons (a := c), hrest, ← hlength, List.drop_left]
        rw [List.flatMap_cons, ih, hdrop, List.drop_zero, hrest, Segment.written]

/-- The segments of content are the content. -/
theorem written_segments (content : String) :
    (segments content).flatMap Segment.written = content.toList :=
  written_segmentsFrom 0 content.toList

/-- The characters of expanded content are those of its expanded segments, also where there are no
partials. -/
theorem toList_expanded (content : String) (partials : List (String × String)) :
    (expanded content partials).toList =
      (segments content).flatMap (Segment.expansion partials) := by
  rw [expanded]
  cases partials with
  | cons e partials => simp
  | nil =>
    have hwritten : Segment.expansion [] = Segment.written := by
      funext s
      cases s <;> rfl
    rw [hwritten, written_segments]
    rfl

end TemplateRules.Partials
