import TemplateRules.Text.CodeRanges
import TemplateRules.Yaml.Token

/-!
# Scalars in the text of a document

A scalar is written plainly, between quotes, or as a block of indented lines. Line ends inside a
scalar are folded: a single one counts as a space, and of several the first counts as nothing. A block
keeps them unless it is marked as folded.

## Main definitions

* `quotedScalar`, `plainScalar`, `blockScalar`: read a scalar and give the place after it
-/

namespace TemplateRules.Yaml

/-- The text is not in the notation. -/
def malformed {α : Type} : Except Fault α := .error .malformed

/-- What a line end and the line ends after it stand for inside a flowing text. -/
def folded (first : Char) (more : List Char) : List Char :=
  (if first != '\n' then [first] else if more.isEmpty then [' '] else []) ++ more

/-! ## Quoted scalars -/

/-- The line ends from here on, with the blanks around them; `fuel` bounds their number. Documents
must not be separated inside quotes. -/
def quotedBreaks : (fuel : Nat) → Cursor → Except Fault (List Char × Cursor)
  | 0, _ => malformed
  | fuel + 1, c =>
    if c.seesSeparator then malformed
    else
      let c := c.skipWhile isSpaceOrTab
      match c.lineBreak? with
      | none => .ok ([], c)
      | some (b, c) => do
        let (more, c) ← quotedBreaks fuel c
        return (b :: more, c)

/-- What stands for the blanks and line ends from here on. -/
def quotedBlanks (c : Cursor) : Except Fault (List Char × Cursor) :=
  let (blanks, after) := c.takeWhile isSpaceOrTab
  match after.lineBreak? with
  | none => .ok (blanks, after)
  | some (b, after) => do
    let (more, after) ← quotedBreaks (after.rest.length + 1) after
    return (folded b more, after)

/-- The characters that have an escape of one character. -/
def shortEscapes : List (Char × Char) := [
  ('0', '\x00'), ('a', '\x07'), ('b', '\x08'), ('t', '\t'), ('\t', '\t'), ('n', '\n'), ('v', '\x0B'),
  ('f', '\x0C'), ('r', '\r'), ('e', '\x1B'), (' ', ' '), ('"', '"'), ('\\', '\\'), ('/', '/'),
  ('N', '\u0085'), ('_', '\u00A0'), ('L', '\u2028'), ('P', '\u2029')]

/-- The number of digits of the escapes that give the code of a character. -/
def codeEscapes : List (Char × Nat) := [('x', 2), ('u', 4), ('U', 8)]

/-- What an escape stands for; the cursor is after its backslash. Texts hold characters, so that a code
that is one of a surrogate is not kept: whatever such code is written, it stands for the character zero. -/
def escape (c : Cursor) : Except Fault (List Char × Cursor) :=
  match c.head? with
  | none => malformed
  | some char =>
    match shortEscapes.lookup char, codeEscapes.lookup char with
    | some meant, _ => .ok ([meant], c.next)
    | none, some count =>
      let digits := c.next.rest.take count
      if digits.length == count && digits.all fun d => (Text.hexValue? d).isSome then
        let code := Text.hexNumber digits
        if code < 0x110000 then .ok ([Char.ofNat code], c.skip (count + 1))
        else .error (.defect (.code code))
      else malformed
    | none, none =>
      match c.lineBreak? with
      | some (_, c) => quotedBreaks (c.rest.length + 1) c
      | none => malformed

/-- The text up to the closing quote; `fuel` bounds the number of its parts. -/
def quotedParts (double : Bool) : (fuel : Nat) → Cursor → Except Fault (List Char × Cursor)
  | 0, _ => malformed
  | fuel + 1, c =>
    let go (part : List Char) (c : Cursor) : Except Fault (List Char × Cursor) := do
      let (more, c) ← quotedParts double fuel c
      return (part ++ more, c)
    match c.head? with
    | none => malformed
    | some char =>
      if double then
        if char == '"' then .ok ([], c.next)
        else if char == '\\' then do
          let (part, c) ← escape c.next
          go part c
        else if isSpaceOrTab char || isBreak char then do
          let (part, c) ← quotedBlanks c
          go part c
        else go [char] c.next
      else if char == '\'' then
        -- Between single quotes a quote is written twice.
        if c.ahead? 1 == some '\'' then go ['\''] (c.skip 2) else .ok ([], c.next)
      else if isSpaceOrTab char || isBreak char then do
        let (part, c) ← quotedBlanks c
        go part c
      else go [char] c.next

/-- Reads a quoted scalar; the cursor is at its opening quote. -/
def quotedScalar (c : Cursor) : Except Fault (String × Cursor) := do
  let (cs, after) ← quotedParts (c.sees '"') (c.rest.length + 1) c.next
  return (String.ofList cs, after)

/-! ## Plain scalars -/

/-- The marks of collections in flow notation. -/
def isFlowMark (c : Char) : Bool := c == ',' || c == '[' || c == ']' || c == '\x7b' || c == '\x7d'

/-- The number of characters up to a blank or a mark that ends a plain scalar. -/
def plainLength (inFlow : Bool) : List Char → Nat
  | [] => 0
  | c :: cs =>
    if isSpaceOrTab c || isBreak c
        || (c == ':' && (endsIndicator cs.head? || (inFlow && cs.head?.any isFlowMark)))
        || (inFlow && (c == '?' || isFlowMark c)) then 0
    else plainLength inFlow cs + 1

/-- The line ends from here on, with the spaces around them, or nothing if documents are separated
here; `fuel` bounds the number of steps. -/
def plainBreaks : (fuel : Nat) → Cursor → Option (List Char) × Cursor
  | 0, c => (some [], c)
  | fuel + 1, c =>
    if c.seesSeparator then (none, c)
    else
      let c := c.skipSpaces
      match c.lineBreak? with
      | none => (some [], c)
      | some (b, c) =>
        let (more, c) := plainBreaks fuel c
        (more.map (b :: ·), c)

/-- What stands for the spaces and line ends after a part of a plain scalar, and whether there is a
line end. Nothing stands for them where the scalar ends. -/
def plainBlanks (c : Cursor) : List Char × Bool × Cursor :=
  let (spaces, after) := c.takeWhile (· == ' ')
  match after.lineBreak? with
  | none => (spaces, false, after)
  | some (b, after) =>
    let (more, after) := plainBreaks (after.rest.length + 1) after
    ((more.map (folded b)).getD [], true, after)

/-- The parts of a plain scalar that is indented by at least `indent`, whether a line end follows it,
and the place after that; `fuel` bounds the number of parts. -/
def plainParts (inFlow : Bool) (indent : Int) : (fuel : Nat) → (before : List Char) → (broken : Bool) →
    Cursor → List Char × Bool × Cursor
  | 0, _, broken, c => ([], broken, c)
  | fuel + 1, before, broken, c =>
    let length := if c.sees '#' then 0 else plainLength inFlow c.rest
    if length == 0 then ([], broken, c)
    else
      let part := before ++ c.rest.take length
      let (blanks, broken, c) := plainBlanks (c.skip length)
      -- The scalar ends where nothing separates it from what follows, at a comment, and at a line that
      -- is not indented.
      if blanks.isEmpty || c.sees '#' || (!inFlow && (c.column : Int) < indent) then (part, broken, c)
      else
        let (more, broken, c) := plainParts inFlow indent fuel blanks broken c
        (part ++ more, broken, c)

/-- Reads a plain scalar; also says whether a line end follows it. -/
def plainScalar (inFlow : Bool) (indent : Int) (c : Cursor) : String × Bool × Cursor :=
  let (cs, broken, after) := plainParts inFlow indent (c.rest.length + 1) [] false c
  (String.ofList cs, broken, after)

/-! ## Block scalars -/

/-- What becomes of the line ends after a block: the last one stays, all of them do, or none. -/
inductive Chomping where
  | clip
  | keep
  | strip
deriving DecidableEq

/-- The chomping that a sign asks for. -/
def chomping? (c : Cursor) : Option Chomping :=
  match c.head? with
  | some '+' => some .keep
  | some '-' => some .strip
  | _ => none

/-- The indentation that a digit asks for; zero is refused. -/
def increment? (c : Cursor) : Except Fault (Option Nat) :=
  match c.head? with
  | some char =>
    if char == '0' then malformed
    else if char.isDigit then .ok (some (char.toNat - 0x30)) else .ok none
  | none => .ok none

/-- The indicators of a block, in either order. -/
def blockIndicators (c : Cursor) : Except Fault ((Chomping × Option Nat) × Cursor) := do
  let (chomping, increment, c) ← match chomping? c with
    | some chomping =>
      match ← increment? c.next with
      | some n => pure (chomping, some n, c.skip 2)
      | none => pure (chomping, none, c.next)
    | none =>
      match ← increment? c with
      | none => pure (.clip, none, c)
      | some n =>
        match chomping? c.next with
        | some chomping => pure (chomping, some n, c.skip 2)
        | none => pure (.clip, some n, c.next)
  if endsWord c.head? then return ((chomping, increment), c) else malformed

/-- The place after the rest of a line that may only hold a comment. -/
def afterComment (c : Cursor) : Except Fault Cursor :=
  let c := c.skipSpaces.skipComment
  match c.head?, c.lineBreak? with
  | none, _ => .ok c
  | _, some (_, c) => .ok c
  | _, none => malformed

/-- The blank lines at the beginning of a block and the greatest indentation in them; `fuel` bounds
the number of lines. -/
def leadingBreaks : (fuel : Nat) → (greatest : Nat) → Cursor → List Char × Nat × Cursor
  | 0, greatest, c => ([], greatest, c)
  | fuel + 1, greatest, c =>
    let after := c.skipSpaces
    let greatest := if after.index == c.index then greatest else max greatest after.column
    match after.lineBreak? with
    | none => ([], greatest, after)
    | some (b, after) =>
      let (more, greatest, after) := leadingBreaks fuel greatest after
      (b :: more, greatest, after)

/-- The place after at most as many spaces as lead to a column. -/
def skipToColumn (indent : Nat) (c : Cursor) : Cursor :=
  c.skip (min (c.rest.takeWhile (· == ' ')).length (indent - c.column))

/-- The blank lines inside a block; `fuel` bounds their number. -/
def blockBreaks (indent : Nat) : (fuel : Nat) → Cursor → List Char × Cursor
  | 0, c => ([], c)
  | fuel + 1, c =>
    let c := skipToColumn indent c
    match c.lineBreak? with
    | none => ([], c)
    | some (b, c) =>
      let (more, c) := blockBreaks indent fuel c
      (b :: more, c)

/-- What stands between two lines of a block: the line end after the first, unless it is folded, and
the blank lines. -/
def betweenLines (foldLines indented : Bool) (lineBreak : List Char) (breaks : List Char) : List Char :=
  if foldLines && lineBreak == ['\n'] && !indented then
    (if breaks.isEmpty then [' '] else []) ++ breaks
  else lineBreak ++ breaks

/-- The lines of a block, its last line end, the blank lines after it, and the place after them;
`fuel` bounds the number of lines. -/
def blockLines (foldLines : Bool) (indent : Nat) : (fuel : Nat) → Cursor →
    List Char × List Char × List Char × Cursor
  | 0, c => ([], [], [], c)
  | fuel + 1, c =>
    let startsBlank := c.head?.any isSpaceOrTab
    let (line, after) := c.takeWhile (!isBreak ·)
    let (lineBreak, after) := match after.lineBreak? with
      | some (b, after) => ([b], after)
      | none => ([], after)
    let (breaks, after) := blockBreaks indent (after.rest.length + 1) after
    -- The block goes on with every line that is indented as far as the first one.
    if after.column == indent && after.head?.isSome then
      let indented := startsBlank || after.head?.any isSpaceOrTab
      let (more, rest) := blockLines foldLines indent fuel after
      (line ++ betweenLines foldLines indented lineBreak breaks ++ more, rest)
    else (line, lineBreak, breaks, after)

/-- Reads a block scalar inside a collection of some indentation; the cursor is at its indicator. -/
def blockScalar (outer : Int) (c : Cursor) : Except Fault (String × Cursor) := do
  let foldLines := c.sees '>'
  let ((chomping, increment), c) ← blockIndicators c.next
  let c ← afterComment c
  -- A block is indented by one column at least, even where nothing is around it.
  let least := (max (outer + 1) 1).toNat
  let (leading, indent, c) := match increment with
    | some n =>
      let indent := least + n - 1
      let (breaks, c) := blockBreaks indent (c.rest.length + 1) c
      (breaks, indent, c)
    | none =>
      let (breaks, greatest, c) := leadingBreaks (c.rest.length + 1) 0 c
      (breaks, max least greatest, c)
  let (lines, lineBreak, trailing, c) :=
    if c.column == indent && c.head?.isSome then
      let (lines, rest) := blockLines foldLines indent (c.rest.length + 1) c
      (leading ++ lines, rest)
    else ([], [], leading, c)
  let tail := match chomping with
    | .strip => []
    | .clip => lineBreak
    | .keep => lineBreak ++ trailing
  return (String.ofList (lines ++ tail), c)

end TemplateRules.Yaml
