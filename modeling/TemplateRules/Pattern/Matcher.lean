import TemplateRules.Pattern.CharClass

/-!
# Matching

A form is matched at a place of a subject and leaves a place, from where the rest of the pattern is
tried; if the rest fails, the form's next way to match is tried. The rest is a function, so that
matching is by recursion on the form. A repetition counts down the characters that are left: an
iteration that consumes none is not repeated.
-/

namespace TemplateRules.Pattern

/-- The part of a subject that a group has matched, by its ends. -/
abbrev Span := Nat × Nat

/-- A place in a subject and what the groups have matched on the way. -/
structure Place where
  position : Nat
  groups : List (Nat × Span)

/-- What the rest of a pattern makes of a place. -/
abbrev Rest := Place → Option Place

/-- A way to match at a place before a rest. -/
abbrev Step := Place → Rest → Option Place

namespace Place

/-- The part that a group has matched last. -/
def span? (p : Place) (index : Nat) : Option Span := p.groups.lookup index

/-- The place with a group's part recorded. -/
def record (p : Place) (index : Nat) (span : Span) : Place :=
  { p with groups := (index, span) :: p.groups.filter (·.1 != index) }

end Place

/-- The first of two attempts that succeeds; the second is made only if the first fails. -/
@[inline] def orTry (first : Option Place) (second : Unit → Option Place) : Option Place :=
  match first with
  | some p => some p
  | none => second ()

/-! ## Single characters and anchors -/

/-- Matches one character that passes a test. -/
def oneChar (subject : Array Char) (test : Char → Bool) : Step := fun p rest =>
  match subject[p.position]? with
  | some c => if test c then rest { p with position := p.position + 1 } else none
  | none => none

/-- Whether a word begins or ends at a position. -/
def atBoundary (subject : Array Char) (ascii : Bool) (position : Nat) : Bool :=
  let isWordAt (c? : Option Char) := (c?.map (Category.word.holds ascii)).getD false
  isWordAt (if position == 0 then none else subject[position - 1]?) != isWordAt subject[position]?

/-- Whether an anchor holds at a position. -/
def Anchor.holds (subject : Array Char) (f : Flags) (position : Nat) : Anchor → Bool
  | .lineStart =>
    position == 0 || (f.multiline && subject[position - 1]? == some '\n')
  | .lineEnd =>
    position == subject.size
      || (subject[position]? == some '\n' && (f.multiline || position + 1 == subject.size))
  | .textStart => position == 0
  | .textEnd => position == subject.size
  -- An empty subject has no boundary, and nothing is inside a word of it either.
  | .boundary => subject.size != 0 && atBoundary subject f.ascii position
  | .inside => subject.size != 0 && !atBoundary subject f.ascii position

/-! ## Repetition -/

/-- Whether another iteration may follow `count` ones. -/
def mayRepeat (greatest : Option Nat) (count : Nat) : Bool :=
  match greatest with
  | none => true
  | some n => count < n

/-- Matches a step a number of times. -/
def times (step : Step) : Nat → Step
  | 0, p, rest => rest p
  | n + 1, p, rest => step p fun q => times step n q rest

/-- Iterates a step as often as possible before the rest. -/
def greedyLoop (step : Step) (greatest : Option Nat) (rest : Rest) :
    (fuel : Nat) → (count : Nat) → (last : Option Nat) → Place → Option Place
  | 0, _, _, p => rest p
  | fuel + 1, count, last, p =>
    -- An iteration that begins where the one before it did would consume nothing again.
    if mayRepeat greatest count && last != some p.position then
      orTry (step p (greedyLoop step greatest rest fuel (count + 1) (some p.position)))
        fun _ => rest p
    else rest p

/-- Iterates a step only as often as the rest needs it. -/
def lazyLoop (step : Step) (greatest : Option Nat) (rest : Rest) :
    (fuel : Nat) → (count : Nat) → (last : Option Nat) → Place → Option Place
  | 0, _, _, p => rest p
  | fuel + 1, count, last, p =>
    orTry (rest p) fun _ =>
      if mayRepeat greatest count && last != some p.position then
        step p (lazyLoop step greatest rest fuel (count + 1) (some p.position))
      else none

/-- Iterates a step as often as possible, each iteration by its first match. -/
def possessiveLoop (step : Step) (greatest : Option Nat) :
    (fuel : Nat) → (count : Nat) → Place → Place
  | 0, _, p => p
  | fuel + 1, count, p =>
    if mayRepeat greatest count then
      -- The rest has no part in the choice, so that no iteration is taken back for it.
      match step p some with
      | some q => if q.position == p.position then q else possessiveLoop step greatest fuel (count + 1) q
      | none => p
    else p

/-- Matches a step a number of times, each time by its first match. -/
def firstTimes (step : Step) : Nat → Place → Option Place
  | 0, p => some p
  | n + 1, p => match step p some with
    | some q => firstTimes step n q
    | none => none

/-- A repetition of a step. -/
def repeatStep (subject : Array Char) (eagerness : Eagerness) (least : Nat) (greatest : Option Nat)
    (step : Step) : Step := fun p rest =>
  -- Every iteration but the last one consumes a character.
  let fuel := subject.size + 2
  match eagerness with
  | .greedy => times step least p (greedyLoop step greatest rest fuel least none)
  | .lazy => times step least p (lazyLoop step greatest rest fuel least none)
  | .possessive =>
    match firstTimes step least p with
    | some q => rest (possessiveLoop step greatest fuel least q)
    | none => none

/-! ## Repetition of single characters -/

/-- The number of characters in a row that pass a test, at most `limit`. -/
def runLength (subject : Array Char) (test : Char → Bool) (position : Nat) : (limit : Nat) → Nat
  | 0 => 0
  | limit + 1 =>
    match subject[position]? with
    | some c => if test c then runLength subject test (position + 1) limit + 1 else 0
    | none => 0

/-- Tries the rest after `least + extra` characters, then after one fewer, down to `least`. -/
def tryDown (rest : Rest) (p : Place) (least : Nat) : (extra : Nat) → Option Place
  | 0 => rest { p with position := p.position + least }
  | extra + 1 =>
    orTry (rest { p with position := p.position + least + extra + 1 }) fun _ =>
      tryDown rest p least extra

/-- Tries the rest after `skipped` characters, then after one more, `more` times. -/
def tryUp (rest : Rest) (p : Place) : (skipped : Nat) → (more : Nat) → Option Place
  | skipped, 0 => rest { p with position := p.position + skipped }
  | skipped, more + 1 =>
    orTry (rest { p with position := p.position + skipped }) fun _ => tryUp rest p (skipped + 1) more

/-- A repetition of a single character. -/
def repeatChar (subject : Array Char) (eagerness : Eagerness) (least : Nat) (greatest : Option Nat)
    (test : Char → Bool) : Step := fun p rest =>
  let left := subject.size - p.position
  let run := runLength subject test p.position ((greatest.map (min left)).getD left)
  if run < least then none
  else match eagerness with
    | .greedy => tryDown rest p least (run - least)
    | .lazy => tryUp rest p least (run - least)
    | .possessive => rest { p with position := p.position + run }

/-! ## Forms -/

/-- Matches the text of a span again. -/
def matchSpan (subject : Array Char) (f : Flags) : (length : Nat) → (start : Nat) → Step
  | 0, _, p, rest => rest p
  | n + 1, start, p, rest =>
    match subject[start]?, subject[p.position]? with
    | some a, some c =>
      if sameChar f a c then
        matchSpan subject f n (start + 1) { p with position := p.position + 1 } rest
      else none
    | _, _ => none

/-- The flags inside a group that turns some on and others off. -/
def Flags.scoped (f : Flags) (on off : List Flag) : Flags :=
  off.foldl (fun f x => f.put false x) (on.foldl (fun f x => f.put true x) f)

/-- Matches a form. -/
def Form.step (subject : Array Char) (f : Flags) : Form → Step
  | .empty, p, rest => rest p
  | .char a, p, rest => oneChar subject (sameChar f a) p rest
  | .notChar a, p, rest => oneChar subject (fun c => !sameChar f a c) p rest
  | .set negated items, p, rest => oneChar subject (setHolds f negated items) p rest
  | .any, p, rest => oneChar subject (fun c => f.dotAll || c != '\n') p rest
  | .anchor a, p, rest => if a.holds subject f p.position then rest p else none
  | .seq first second, p, rest => first.step subject f p fun q => second.step subject f q rest
  | .either first second, p, rest =>
    orTry (first.step subject f p rest) fun _ => second.step subject f p rest
  | .capture index body, p, rest =>
    body.step subject f p fun q => rest (q.record index (p.position, q.position))
  | .scoped on off body, p, rest => body.step subject (f.scoped on off) p rest
  -- What follows an atomic part cannot make it match in another way.
  | .atomic body, p, rest =>
    match body.step subject f p some with
    | some q => rest q
    | none => none
  -- A condition consumes nothing; what its groups have matched stays known if it is not negated.
  | .ahead negated body, p, rest =>
    match body.step subject f p some, negated with
    | some q, false => rest { q with position := p.position }
    | none, true => rest p
    | _, _ => none
  | .behind negated width body, p, rest =>
    let found := if width ≤ p.position then
        body.step subject f { p with position := p.position - width } some
      else none
    match found, negated with
    | some q, false => rest { q with position := p.position }
    | none, true => rest p
    | _, _ => none
  -- A reference to a group that has not matched matches nothing, not even the empty text.
  | .reference index, p, rest =>
    match p.span? index with
    | some (first, last) => matchSpan subject f (last - first) first p rest
    | none => none
  | .choice index yes no, p, rest =>
    if (p.span? index).isSome then yes.step subject f p rest else no.step subject f p rest
  | .repeated eagerness least greatest body, p, rest =>
    match body.charTest? f with
    | some test => repeatChar subject eagerness least greatest test p rest
    | none => repeatStep subject eagerness least greatest (body.step subject f) p rest

end TemplateRules.Pattern
