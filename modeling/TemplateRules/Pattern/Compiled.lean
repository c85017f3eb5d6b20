import TemplateRules.Pattern.Matcher
import TemplateRules.Pattern.Reader

/-!
# Compiled patterns

A pattern that has been read, with the number and the names of its groups, and its matches in a
subject. Matches are found from left to right and do not overlap; after an empty match the next one at
the same position must not be empty.
-/

namespace TemplateRules

open Pattern (Form Flags Flag Span Place)

/-- A pattern that has been read. -/
structure Pattern where
  source : String
  form : Form
  flags : Flags
  /-- The number of capture groups. -/
  groups : Nat
  /-- The numbers of the named groups. -/
  names : List (String × Nat)

namespace Pattern

/-- Reads a pattern. -/
def compile (source : String) : Except Fault Pattern := do
  let (form, reader) ← readPattern source.toList
  return {
    source := source
    form := form
    flags := reader.flags.foldl (fun f x => f.put true x) Flags.none
    groups := reader.widths.size - 1
    names := reader.names }

/-- A match: its ends, and those of the groups that have matched. -/
structure Match where
  start : Nat
  stop : Nat
  groups : List (Nat × Span)

/-- The match at a position, if there is one; `nonempty` asks for more than no character. -/
def matchAt? (p : Pattern) (subject : Array Char) (nonempty : Bool) (position : Nat) : Option Match :=
  let rest (q : Place) : Option Place :=
    if nonempty && q.position == position then none else some q
  (p.form.step subject p.flags ⟨position, []⟩ rest).map fun q => ⟨position, q.position, q.groups⟩

/-- The first match at one of `count` positions from `position` on. -/
def firstFrom? (p : Pattern) (subject : Array Char) : (count : Nat) → (position : Nat) → Option Match
  | 0, _ => none
  | count + 1, position =>
    match p.matchAt? subject false position with
    | some m => some m
    | none => firstFrom? p subject count (position + 1)

/-- The first match at or after a position; one at the position itself may have to be nonempty. -/
def nextMatch? (p : Pattern) (subject : Array Char) (nonempty : Bool) (position : Nat) : Option Match :=
  match p.matchAt? subject nonempty position with
  | some m => some m
  | none => p.firstFrom? subject (subject.size - position) (position + 1)

/-- The matches from a position on; `fuel` bounds their number. -/
def matchesFrom (p : Pattern) (subject : Array Char) :
    (fuel : Nat) → (nonempty : Bool) → (position : Nat) → List Match
  | 0, _, _ => []
  | fuel + 1, nonempty, position =>
    match p.nextMatch? subject nonempty position with
    | none => []
    -- The same place may match again after an empty match, but not with the empty text.
    | some m => m :: matchesFrom p subject fuel (m.start == m.stop) m.stop

/-- The matches in a subject. At most two of them, one of which is empty, begin at each position. -/
def allMatches (p : Pattern) (subject : List Char) : List Match :=
  p.matchesFrom subject.toArray (2 * subject.length + 3) false 0

/-- The part of a subject that a group has matched; a group that has not is empty. -/
def Match.group (m : Match) (subject : List Char) (index : Nat) : List Char :=
  let span := if index == 0 then (m.start, m.stop) else (m.groups.lookup index).getD (0, 0)
  (subject.drop span.1).take (span.2 - span.1)

/-- The subject from a position on, with every match replaced. -/
def substituteFrom (subject : List Char) (replacement : Match → List Char) (position : Nat) :
    List Match → List Char
  | [] => subject.drop position
  | m :: ms =>
    (subject.drop position).take (m.start - position) ++ replacement m
      ++ substituteFrom subject replacement m.stop ms

/-- The subject with every match replaced. -/
def substitute (p : Pattern) (subject : List Char) (replacement : Match → List Char) : List Char :=
  substituteFrom subject replacement 0 (p.allMatches subject)

/-- Whether the pattern matches anywhere. -/
def occursIn (p : Pattern) (subject : List Char) : Bool := (p.nextMatch? subject.toArray false 0).isSome

end Pattern

end TemplateRules
