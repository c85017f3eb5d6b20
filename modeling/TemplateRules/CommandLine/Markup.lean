/-!
# Markup of console output

Console output is written with tags in square brackets, which set styles and leave no text. A tag begins
with a small letter, `#`, `/` or `@`; a slash closes the style of that name, or the latest one. A
backslash before a tag makes it plain text, and `escape` puts one there.

## Main definitions

* `Markup.escape`: the markup that shows a text as it is
* `Markup.shown?`: the text that markup shows, unless it closes a style that is not open
* `Markup.laidOut`: a text as the console lays it out
-/

namespace TemplateRules.Markup

/-! ## Tags -/

/-- Whether a tag may begin with the character. -/
def beginsTag (c : Char) : Bool :=
  ('a' ≤ c && c ≤ 'z') || c == '#' || c == '/' || c == '@'

/-- What stands inside the tag that characters begin with. -/
def insideTag? : List Char → Option (List Char)
  | '[' :: c :: cs =>
    let inside := cs.takeWhile fun d => d != '[' && d != ']'
    if beginsTag c && (cs.drop inside.length).head? == some ']' then some (c :: inside) else none
  | _ => none

/-- The number of backslashes and the inside of the tag that characters begin with. -/
def marked? (cs : List Char) : Option (Nat × List Char) :=
  let slashes := (cs.takeWhile (· == '\\')).length
  (insideTag? (cs.drop slashes)).map ((slashes, ·))

/-- A stretch of markup: a character, or a tag by the backslashes before it and its inside. -/
inductive Segment where
  | char (c : Char)
  | tag (slashes : Nat) (inside : List Char)
deriving DecidableEq

/-- The segments of markup, where the first `skip` characters belong to a tag that has begun. -/
def segmentsFrom : (skip : Nat) → List Char → List Segment
  | _, [] => []
  | skip + 1, _ :: cs => segmentsFrom skip cs
  | 0, c :: cs =>
    match marked? (c :: cs) with
    | some (slashes, inside) => .tag slashes inside :: segmentsFrom (slashes + inside.length + 1) cs
    | none => .char c :: segmentsFrom 0 cs

/-- The text of a tag. -/
def tagText (inside : List Char) : List Char := '[' :: (inside ++ [']'])

/-! ## Escaping -/

/-- The markup that shows a segment as it is. -/
def Segment.escaped : Segment → List Char
  | .char c => [c]
  | .tag slashes inside => List.replicate (2 * slashes + 1) '\\' ++ tagText inside

/-- Whether characters end with exactly one backslash. -/
def endsWithSlash (cs : List Char) : Bool :=
  match cs.reverse with
  | '\\' :: '\\' :: _ => false
  | '\\' :: _ => true
  | _ => false

/-- The markup that shows a text as it is. -/
def escape (text : String) : String :=
  let cs := (segmentsFrom 0 text.toList).flatMap Segment.escaped
  -- A single backslash at the end would escape a tag of whatever is written next.
  String.ofList (if endsWithSlash cs then cs ++ ['\\'] else cs)

/-! ## Showing -/

/-- Plain text with `\[` as an opening bracket. -/
def unescaped : List Char → List Char
  | [] => []
  | '\\' :: '[' :: cs => '[' :: unescaped cs
  | c :: cs => c :: unescaped cs

/-- The name of a style: blanks around it and the case of its letters do not matter. -/
def styleName (cs : List Char) : List Char :=
  let trimmed := ((cs.dropWhile (· == ' ')).reverse.dropWhile (· == ' ')).reverse
  trimmed.map Char.toLower

/-- The open styles after a tag, latest first. -/
def afterTag? (styles : List (List Char)) : List Char → Option (List (List Char))
  | '/' :: name =>
    let name := styleName name
    if name.isEmpty then (if styles.isEmpty then none else some styles.tail)
    else if styles.contains name then some (styles.erase name) else none
  | inside => some (styleName (inside.takeWhile (· != '=')) :: styles)

/-- The text that segments show, where `pending` is plain text that has not been written yet. -/
def showFrom (styles : List (List Char)) (pending : List Char) : List Segment → Option (List Char)
  | [] => some (unescaped pending)
  | .char c :: rest => showFrom styles (pending ++ [c]) rest
  | .tag slashes inside :: rest =>
    let before := unescaped pending ++ List.replicate (slashes / 2) '\\'
    -- Pairs of backslashes show one each, and one that is left over makes the tag plain text.
    if slashes % 2 == 1 then (showFrom styles [] rest).map fun more => before ++ tagText inside ++ more
    else do
      let more ← showFrom (← afterTag? styles inside) [] rest
      return before ++ more

/-- The text that markup shows; nothing if it closes a style that is not open. -/
def shown? (markup : String) : Option String :=
  if markup.toList.contains '[' then
    (showFrom [] [] (segmentsFrom 0 markup.toList)).map String.ofList
  else some markup

/-! ## Layout -/

/-- Whether the console drops a character: the bell, the backspace and vertical movements. -/
def isDropped (c : Char) : Bool := [7, 8, 11, 12, 13].contains c.toNat

/-- The characters with spaces up to the next multiple of eight columns in place of tabs. -/
def withoutTabs (column : Nat) : List Char → List Char
  | [] => []
  | c :: cs =>
    if c == '\t' then List.replicate (8 - column % 8) ' ' ++ withoutTabs (column + (8 - column % 8)) cs
    else c :: withoutTabs (if c == '\n' then 0 else column + 1) cs

/-- A text as the console lays it out. -/
def laidOut (text : String) : String :=
  String.ofList (withoutTabs 0 (text.toList.filter fun c => !isDropped c))

end TemplateRules.Markup
