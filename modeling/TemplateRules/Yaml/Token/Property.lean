import TemplateRules.Text.CodeRanges
import TemplateRules.Text.Digit
import TemplateRules.Yaml.Token

/-!
# Names, tags and directives

The tokens that say something about a node or about the document: the name under which a node is
referred to, its tag, and the directives before a document.

## Main definitions

* `nodeName`, `tagToken`, `directiveToken`: read such a token and give the place after it
-/

namespace TemplateRules.Yaml

/-- A test that must hold here. -/
def expect (holds : Bool) : Except Fault Unit := if holds then .ok () else .error .malformed

/-! ## Names -/

/-- Whether a name may end here. -/
def endsName (c : Option Char) : Bool :=
  endsIndicator c || c.any fun c => "?:,]\x7d%@`".toList.contains c

/-- Reads a name; the cursor is at the sign before it. -/
def nodeName (c : Cursor) : Except Fault (String × Cursor) := do
  let (name, after) := c.next.takeWhile isNameChar
  expect (!name.isEmpty && endsName after.head?)
  return (String.ofList name, after)

/-! ## Tags -/

/-- Whether a character may stand in a tag. -/
def isTagChar (c : Char) : Bool :=
  c.isAlphanum || "-;/?:@&=+$,_.!~*'()[]%".toList.contains c

/-- The bytes that escapes from here on give; `fuel` bounds their number. -/
def escapedBytes : (fuel : Nat) → Cursor → Except Fault (List UInt8 × Cursor)
  | 0, c => .ok ([], c)
  | fuel + 1, c =>
    if c.sees '%' then do
      let digits := c.next.rest.take 2
      expect (digits.length == 2 && digits.all fun d => (Text.hexValue? d).isSome)
      let (more, c) ← escapedBytes fuel (c.skip 3)
      return (UInt8.ofNat (Text.hexNumber digits) :: more, c)
    else .ok ([], c)

/-- The characters of a tag from here on; `fuel` bounds the number of its parts. -/
def tagChars : (fuel : Nat) → Cursor → Except Fault (List Char × Cursor)
  | 0, c => .ok ([], c)
  | fuel + 1, c => do
    let (part, c) := c.takeWhile fun d => isTagChar d && d != '%'
    if c.sees '%' then
      let (bytes, c) ← escapedBytes (c.rest.length + 1) c
      match String.fromUTF8? ⟨bytes.toArray⟩ with
      | none => .error .malformed
      | some s =>
        let (more, c) ← tagChars fuel c
        return (part ++ s.toList ++ more, c)
    else return (part, c)

/-- Reads the rest of a tag, which must not be empty. -/
def tagRest (c : Cursor) : Except Fault (String × Cursor) := do
  let (cs, after) ← tagChars (c.rest.length + 1) c
  expect (after.index != c.index)
  return (String.ofList cs, after)

/-- Reads the handle of a tag: an exclamation mark, or a name between two of them. -/
def tagHandle (c : Cursor) : Except Fault (String × Cursor) := do
  expect (c.sees '!')
  if c.ahead? 1 == some ' ' then return ("!", c.next)
  else
    let (name, after) := c.next.takeWhile isNameChar
    expect (after.sees '!')
    return (String.ofList ('!' :: name ++ ['!']), after.next)

/-- Whether a tag has a handle of its own: a further exclamation mark before its end. -/
def hasHandle (cs : List Char) : Bool :=
  (cs.takeWhile fun c => !endsWord (some c)).contains '!'

/-- Reads a tag; the cursor is at its exclamation mark. -/
def tagToken (c : Cursor) : Except Fault (Token × Cursor) := do
  let (token, after) ←
    if c.ahead? 1 == some '<' then do
      let (rest, after) ← tagRest (c.skip 2)
      expect (after.sees '>')
      pure (Token.tag none rest, after.next)
    else if endsIndicator (c.ahead? 1) then pure (Token.tag none "!", c.next)
    else do
      let (handle, after) ← if hasHandle (c.rest.drop 1) then tagHandle c else pure ("!", c.next)
      let (rest, after) ← tagRest after
      pure (Token.tag (some handle) rest, after)
  expect (endsWord after.head?)
  return (token, after)

/-! ## Directives -/

/-- Reads a number of seven-bit digits, of which there may be too many. -/
def plainNumber (c : Cursor) : Except Fault (Nat × Cursor) := do
  let (digits, after) := c.takeWhile Char.isDigit
  expect (!digits.isEmpty)
  if Text.digitLimit < digits.length then throw (.defect (.digits digits.length))
  return (Text.decimalNumber digits, after)

/-- Reads the number of a version directive. -/
def versionDirective (c : Cursor) : Except Fault (Directive × Cursor) := do
  let (major, c) ← plainNumber c.skipSpaces
  expect (c.sees '.')
  let (minor, c) ← plainNumber c.next
  expect (endsWord c.head?)
  return (.version major minor, c)

/-- Reads what a tag directive says. -/
def tagDirective (c : Cursor) : Except Fault (Directive × Cursor) := do
  let (handle, c) ← tagHandle c.skipSpaces
  expect (c.sees ' ')
  let (start, c) ← tagRest c.skipSpaces
  expect (endsWord c.head?)
  return (.tag handle start, c)

/-- Reads a directive up to the end of its line; the cursor is at its percent sign. -/
def directiveToken (c : Cursor) : Except Fault (Directive × Cursor) := do
  let (name, c) := c.next.takeWhile isNameChar
  expect (!name.isEmpty && endsWord c.head?)
  let (directive, c) ←
    if name == "YAML".toList then versionDirective c
    else if name == "TAG".toList then tagDirective c
    else pure (Directive.other, c.skipWhile (!isBreak ·))
  let c := c.skipSpaces.skipComment
  expect (endsLine c.head?)
  return (directive, ((c.lineBreak?).map (·.2)).getD c)

end TemplateRules.Yaml
