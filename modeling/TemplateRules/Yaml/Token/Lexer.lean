import TemplateRules.Yaml.Token.Property
import TemplateRules.Yaml.Token.Scalar

/-!
# Reading tokens

The tokens of a text are read from left to right. Whether a scalar is the key of a mapping shows only
at the colon after it, so a place where a key may have begun is kept in mind, for at most one line and
1024 characters, and the mark of the key is put there later. Outside of flow collections the
indentation opens and closes collections.

## Main definitions

* `Lexer`: the place, the indentation, and where keys may have begun
* `tokens`: the tokens of a text
-/

namespace TemplateRules.Yaml

/-- A place where a key may have begun. -/
structure PossibleKey where
  /-- The number of tokens before it. -/
  position : Nat
  /-- A key must be here, or else the text is not in the notation. -/
  required : Bool
  index : Nat
  line : Nat
  column : Nat

/-- The state of reading. -/
structure Lexer where
  cursor : Cursor
  /-- The number of open flow collections. -/
  flow : Nat
  indent : Int
  /-- The indentations of the open collections around the current one. -/
  outer : List Int
  /-- Whether a key may begin here. -/
  mayBeKey : Bool
  /-- Where keys may have begun, by the number of open flow collections. -/
  keys : List (Nat × PossibleKey)
  /-- The tokens so far, last first. -/
  tokens : List Token

namespace Lexer

/-- The state before a text. -/
def start (cs : List Char) : Lexer := ⟨.start cs, 0, -1, [], true, [], []⟩

/-- The state with a further token. -/
def emit (l : Lexer) (t : Token) : Lexer := { l with tokens := t :: l.tokens }

/-- The state at another place. -/
def moveTo (l : Lexer) (c : Cursor) : Lexer := { l with cursor := c }

/-- The state with a token put before all but the first `position` tokens. -/
def insertAt (l : Lexer) (position : Nat) (t : Token) : Lexer :=
  let after := l.tokens.length - position
  { l with tokens := l.tokens.take after ++ t :: l.tokens.drop after }

/-! ## Indentation -/

/-- Closes `count` collections at most, namely those that are indented more than a column. -/
def unwindAtMost (column : Int) : (count : Nat) → Lexer → Lexer
  | 0, l => l
  | count + 1, l =>
    if l.indent > column then
      unwindAtMost column count
        { l with indent := l.outer.head?.getD (-1), outer := l.outer.tail
                 tokens := .blockEnd :: l.tokens }
    else l

/-- Closes the collections that are indented more than a column, outside of flow collections. -/
def unwind (column : Int) (l : Lexer) : Lexer :=
  if l.flow > 0 then l else unwindAtMost column (l.outer.length + 1) l

/-- Whether a column is indented more than the current collection. -/
def isDeeper (l : Lexer) (column : Nat) : Bool := l.indent < (column : Int)

/-- Opens a collection at a column. -/
def openAt (l : Lexer) (column : Nat) : Lexer :=
  { l with indent := column, outer := l.indent :: l.outer }

/-- Opens a collection at the current column, if that is indented more than the current one. -/
def openHere (l : Lexer) (t : Token) : Lexer :=
  if l.isDeeper l.cursor.column then (l.openAt l.cursor.column).emit t else l

/-! ## Possible keys -/

/-- Forgets the possible key of the current flow collection; a required one must not be forgotten. -/
def forgetKey (l : Lexer) : Except Fault Lexer := do
  match l.keys.lookup l.flow with
  | none => return l
  | some key =>
    expect (!key.required)
    return { l with keys := l.keys.filter (·.1 != l.flow) }

/-- Keeps in mind that a key may begin here. -/
def markKey (l : Lexer) : Except Fault Lexer :=
  if l.mayBeKey then do
    let l ← l.forgetKey
    let c := l.cursor
    -- At the indentation of the current mapping nothing but a key can begin.
    let required := l.flow == 0 && l.indent == (c.column : Int)
    return { l with keys := (l.flow, ⟨l.tokens.length, required, c.index, c.line, c.column⟩) :: l.keys }
  else return l

/-- Forgets the possible keys that lie too far back. -/
def forgetStale (l : Lexer) : Except Fault Lexer := do
  let isStale (key : PossibleKey) : Bool :=
    key.line != l.cursor.line || 1024 < l.cursor.index - key.index
  expect (!l.keys.any fun (_, key) => isStale key && key.required)
  return { l with keys := l.keys.filter fun (_, key) => !isStale key }

/-! ## Blanks -/

/-- The place of the next token, after spaces, comments and line ends. After a line end outside of
flow collections a key may begin. The number of line ends is bounded by `fuel`. -/
def toNextToken : (fuel : Nat) → Lexer → Lexer
  | 0, l => l
  | fuel + 1, l =>
    let c := l.cursor.skipSpaces.skipComment
    match c.lineBreak? with
    | none => l.moveTo c
    | some (_, c) => toNextToken fuel { l with cursor := c, mayBeKey := l.mayBeKey || l.flow == 0 }

/-- The place of the next token; a mark of the byte order at the beginning is skipped. -/
def skipBlanks (l : Lexer) : Lexer :=
  let c := l.cursor
  toNextToken (c.rest.length + 1) (if c.index == 0 && c.sees '\uFEFF' then l.moveTo c.next else l)

/-! ## Tokens -/

/-- Ends the text. -/
def finishText (l : Lexer) : Except Fault Lexer := do
  let l ← (l.unwind (-1)).forgetKey
  return l.emit .finish

/-- Reads a directive. -/
def readDirective (l : Lexer) : Except Fault Lexer := do
  let l ← (l.unwind (-1)).forgetKey
  let (d, c) ← directiveToken l.cursor
  return ({ l with mayBeKey := false, cursor := c }).emit (.directive d)

/-- Reads a mark between documents. -/
def readSeparator (l : Lexer) (t : Token) : Except Fault Lexer := do
  let l ← (l.unwind (-1)).forgetKey
  return ({ l with mayBeKey := false, cursor := l.cursor.skip 3 }).emit t

/-- Opens a flow collection. -/
def openFlow (l : Lexer) (t : Token) : Except Fault Lexer := do
  let l ← l.markKey
  return ({ l with flow := l.flow + 1, mayBeKey := true, cursor := l.cursor.next }).emit t

/-- Closes a flow collection, if one is open. -/
def closeFlow (l : Lexer) (t : Token) : Except Fault Lexer := do
  expect (l.flow > 0)
  let l ← l.forgetKey
  return ({ l with flow := l.flow - 1, mayBeKey := false, cursor := l.cursor.next }).emit t

/-- Reads the mark between the entries of a flow collection. -/
def readFlowEntry (l : Lexer) : Except Fault Lexer := do
  let l ← ({ l with mayBeKey := true }).forgetKey
  return (l.moveTo l.cursor.next).emit .flowEntry

/-- Reads the mark of an entry of a sequence. -/
def readBlockEntry (l : Lexer) : Except Fault Lexer := do
  expect (l.flow > 0 || l.mayBeKey)
  let l := if l.flow > 0 then l else l.openHere .blockSequenceStart
  let l ← ({ l with mayBeKey := true }).forgetKey
  return (l.moveTo l.cursor.next).emit .blockEntry

/-- Reads the mark of a key. -/
def readKey (l : Lexer) : Except Fault Lexer := do
  expect (l.flow > 0 || l.mayBeKey)
  let l := if l.flow > 0 then l else l.openHere .blockMappingStart
  let l ← ({ l with mayBeKey := l.flow == 0 }).forgetKey
  return (l.moveTo l.cursor.next).emit .key

/-- Reads the mark of a value. Where a key may have begun, it has. -/
def readValue (l : Lexer) : Except Fault Lexer := do
  let l ← match l.keys.lookup l.flow with
    | some key =>
      let l := { l with keys := l.keys.filter (·.1 != l.flow), mayBeKey := false }
      -- The key has been read already, so its marks are put before it.
      let l := l.insertAt key.position .key
      pure (if l.flow == 0 && l.isDeeper key.column then
        (l.openAt key.column).insertAt key.position .blockMappingStart else l)
    | none => do
      expect (l.flow > 0 || l.mayBeKey)
      let l := if l.flow > 0 then l else l.openHere .blockMappingStart
      ({ l with mayBeKey := l.flow == 0 }).forgetKey
  return (l.moveTo l.cursor.next).emit .value

/-- Reads a token that may be a key. -/
def readKeyToken (l : Lexer) (read : Cursor → Except Fault (Token × Cursor)) : Except Fault Lexer := do
  let l ← l.markKey
  let (t, c) ← read l.cursor
  return ({ l with mayBeKey := false, cursor := c }).emit t

/-- Reads a block scalar. -/
def readBlockScalar (l : Lexer) : Except Fault Lexer := do
  let l ← ({ l with mayBeKey := true }).forgetKey
  let (s, c) ← blockScalar l.indent l.cursor
  return (l.moveTo c).emit (.scalar s false)

/-- Reads a plain scalar. After a line end that follows it a key may begin. -/
def readPlain (l : Lexer) : Except Fault Lexer := do
  let l ← l.markKey
  let (s, broken, c) := plainScalar (l.flow > 0) (l.indent + 1) l.cursor
  return ({ l with mayBeKey := broken, cursor := c }).emit (.scalar s true)

/-- Whether a plain scalar may begin with a character, when `following` comes after it. -/
def beginsPlain (inFlow : Bool) (char : Char) (following : Option Char) : Bool :=
  !(isSpaceOrTab char || isBreak char || "-?:,[]\x7b\x7d#&*!|>'\"%@`".toList.contains char)
    || (!endsIndicator following && (char == '-' || (!inFlow && (char == '?' || char == ':'))))

/-- Reads the token at the cursor. -/
def readToken (l : Lexer) (char : Char) : Except Fault Lexer :=
  let c := l.cursor
  let spaced := endsIndicator (c.ahead? 1)
  let inFlow := l.flow > 0
  if char == '%' && c.column == 0 then l.readDirective
  else if char == '-' && c.column == 0 && c.seesSeparator then l.readSeparator .documentStart
  else if char == '.' && c.column == 0 && c.seesSeparator then l.readSeparator .documentEnd
  else if char == '[' then l.openFlow .flowSequenceStart
  else if char == '\x7b' then l.openFlow .flowMappingStart
  else if char == ']' then l.closeFlow .flowSequenceEnd
  else if char == '\x7d' then l.closeFlow .flowMappingEnd
  else if char == ',' then l.readFlowEntry
  else if char == '-' && spaced then l.readBlockEntry
  else if char == '?' && (inFlow || spaced) then l.readKey
  else if char == ':' && (inFlow || spaced) then l.readValue
  else if char == '*' then
    l.readKeyToken fun c => (nodeName c).map fun (name, c) => (.reference name, c)
  else if char == '&' then
    l.readKeyToken fun c => (nodeName c).map fun (name, c) => (.anchor name, c)
  else if char == '!' then l.readKeyToken tagToken
  else if (char == '|' || char == '>') && !inFlow then l.readBlockScalar
  else if char == '\'' || char == '"' then
    l.readKeyToken fun c => (quotedScalar c).map fun (s, c) => (.scalar s false, c)
  else if beginsPlain inFlow char (c.ahead? 1) then l.readPlain
  else .error .malformed

/-- The tokens before a fault. A token that might still become a key is not known before what follows
is read, so the fault counts in place of the first such token. -/
def breakOff (l : Lexer) (fault : Fault) : List Token :=
  let known := (l.keys.map (·.2.position)).foldl min l.tokens.length
  l.tokens.reverse.take known ++ [.broken fault]

/-- Reads tokens up to the end of the text; `fuel` bounds their number. What cannot be read ends them
with a broken one. -/
def run : (fuel : Nat) → Lexer → List Token
  | 0, l => l.breakOff .malformed
  | fuel + 1, l =>
    match l.skipBlanks.forgetStale with
    | .error fault => l.breakOff fault
    | .ok l =>
      let l := l.unwind l.cursor.column
      match l.cursor.head? with
      | none =>
        match l.finishText with
        | .ok l => l.tokens.reverse
        | .error fault => l.breakOff fault
      | some char =>
        match l.readToken char with
        | .ok l => run fuel l
        | .error fault => l.breakOff fault

end Lexer

/-- The tokens of a text. Every one but the last takes a character. -/
def tokens (text : String) : List Token :=
  let cs := text.toList
  if cs.all isAllowed then (Lexer.start cs).run (cs.length + 1) else [.broken .malformed]

end TemplateRules.Yaml
