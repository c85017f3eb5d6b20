import TemplateRules.Defect
import TemplateRules.Number.Literal
import TemplateRules.Pattern.CharClass
import TemplateRules.Pattern.CharacterName
import TemplateRules.Text.Identifier

/-!
# Reading patterns

A pattern is read as a sequence of tokens, each a character or a backslash with the character after
it. Every complaint points at the token where the reader stands, less the length of what it has just
read. A backslash at the very end is complained about as soon as it is the next token.
-/

namespace TemplateRules.Pattern

open Text

/-! ## Tokens -/

/-- A character, or a backslash and a character, and where it stands. -/
structure Token where
  text : List Char
  position : Nat

/-- The tokens of a text that begins at a position. -/
def tokensFrom : (position : Nat) → List Char → List Token
  | _, [] => []
  | i, '\\' :: c :: cs => ⟨['\\', c], i⟩ :: tokensFrom (i + 2) cs
  | i, c :: cs => ⟨[c], i⟩ :: tokensFrom (i + 1) cs

/-! ## The reader -/

/-- The least and the greatest number of characters that a form matches, up to a bound. -/
abbrev Width := Nat × Nat

/-- The bound of widths. -/
def widthBound : Nat := Nat.pow 2 64

/-- The bound of repetition counts. -/
def countBound : Nat := Nat.pow 2 32 - 1

/-- The bound of group numbers. -/
def groupBound : Nat := Nat.pow 2 30 - 1

/-- Why a text is no pattern. -/
inductive Fault where
  | malformed (m : Malformed)
  | defect (d : Defect)
deriving DecidableEq

/-- Where a reader stands and what it has learned. -/
structure Reader where
  rest : List Token
  /-- The length of the whole text. -/
  size : Nat
  /-- The flags for the whole pattern. -/
  flags : List Flag
  names : List (String × Nat)
  /-- The widths of the groups, by number; an open group has none. -/
  widths : Array (Option Width)
  /-- The number of groups in front of the outermost condition on what stands before. -/
  behindGroups : Option Nat
  /-- The group numbers that conditions refer to, with the position of the first reference. -/
  references : List (Nat × Nat)
  /-- Whether a condition on what stands before has no fixed width. -/
  varying : Option Complaint

/-- A step of reading. -/
abbrev Read (α : Type) := StateT Reader (Except Fault) α

/-- The text of the next token. -/
def next? : Read (Option (List Char)) := do return (← get).rest.head?.map (·.text)

/-- The position of the next token. -/
def here : Read Nat := do
  let r ← get
  return (r.rest.head?.map (·.position)).getD r.size

/-- Complains `back` characters before the next token. -/
def complain {α : Type} (complaint : Complaint) (back : Nat) : Read α := do
  throw (.malformed ⟨complaint, some ((← here) - back)⟩)

/-- Complains at the next token. -/
def refuse {α : Type} (complaint : Complaint) : Read α := complain complaint 0

/-- Complains if the next token is a lone backslash. -/
def checkNext : Read Unit := do
  let r ← get
  if (r.rest.head?.map (·.text)) == some ['\\'] then
    throw (.malformed ⟨.badEscapeAtEnd, some (r.size - 1)⟩)

/-- Takes the next token. -/
def take? : Read (Option (List Char)) := do
  let t ← next?
  modify fun r => { r with rest := r.rest.drop 1 }
  checkNext
  return t

/-- Takes the next token if it is the character. -/
def takeIf (c : Char) : Read Bool := do
  if (← next?) == some [c] then
    let _ ← take?
    return true
  else return false

/-- Takes up to `n` single characters of a class. -/
def takeUpTo (inClass : Char → Bool) : (n : Nat) → Read (List Char)
  | 0 => return []
  | n + 1 => do
    match ← next? with
    | some [c] =>
      if inClass c then
        let _ ← take?
        return c :: (← takeUpTo inClass n)
      else return []
    | _ => return []

/-- Takes tokens up to a closing character, which is taken too; `fuel` bounds their number. -/
def takeUntil (close : Char) (what : String) : (fuel : Nat) → (taken : List Char) →
    Read (List Char)
  | 0, taken => return taken
  | fuel + 1, taken => do
    match ← take? with
    | none =>
      if taken.isEmpty then refuse (.missing what)
      -- An unterminated name is complained about where it begins.
      else complain (.missing (String.ofList [close] ++ ", unterminated name")) taken.length
    | some t =>
      if t == [close] then
        if taken.isEmpty then complain (.missing what) 1 else return taken
      else takeUntil close what fuel (taken ++ t)

/-- Takes the name before a closing character. -/
def takeName (close : Char) (what : String) : Read (List Char) := do
  takeUntil close what ((← get).rest.length + 1) []

/-! ## Groups -/

/-- Whether a group has been closed. -/
def isClosed (index : Nat) : Read Bool := do
  return (((← get).widths[index]?).getD none).isSome

/-- Inside a condition on what stands before, only closed groups in front of it may be meant. -/
def checkBehind (index : Nat) : Read Unit := do
  match (← get).behindGroups with
  | none => return
  | some groups =>
    if !(← isClosed index) then refuse .openGroup
    else if groups ≤ index then refuse .groupOfSameLookbehind

/-- Opens the next group. -/
def openGroup (name : Option String) : Read Nat := do
  let r ← get
  let index := r.widths.size
  match name with
  | none => set { r with widths := r.widths.push none }
  | some name =>
    match r.names.lookup name with
    | some previous => complain (.redefinedGroup name index previous) (name.length + 1)
    | none =>
      set { r with widths := r.widths.push none, names := r.names ++ [(name, index)] }
  return index

/-- Closes a group. -/
def closeGroup (index : Nat) (width : Width) : Read Unit :=
  modify fun r => { r with widths := r.widths.setIfInBounds index (some width) }

/-! ## Widths -/

/-- A width within the bound. -/
def bounded (w : Width) : Width := (min w.1 widthBound, min w.2 widthBound)

/-- The width of a form, where `groups` are the widths of the groups. -/
def Form.width (groups : Array (Option Width)) : Form → Width
  | .empty => (0, 0)
  | .char _ => (1, 1)
  | .notChar _ => (1, 1)
  | .set _ _ => (1, 1)
  | .any => (1, 1)
  | .anchor _ => (0, 0)
  | .seq a b =>
    let (m, n) := a.width groups
    let (k, l) := b.width groups
    bounded (m + k, n + l)
  | .either a b =>
    let (m, n) := a.width groups
    let (k, l) := b.width groups
    (min m k, max n l)
  | .capture _ body => body.width groups
  | .scoped _ _ body => body.width groups
  | .atomic body => body.width groups
  | .ahead _ _ => (0, 0)
  | .behind _ _ _ => (0, 0)
  | .reference index => ((groups[index]?).getD none).getD (0, 0)
  | .choice _ yes no =>
    let (m, n) := yes.width groups
    let (k, l) := no.width groups
    (min m k, max n l)
  | .repeated _ least greatest body =>
    let (m, n) := body.width groups
    bounded (m * least, match greatest with
      | none => if n == 0 then 0 else widthBound
      | some k => n * k)

/-! ## Escapes -/

/-- Whether the character is an octal digit. -/
def isOctal (c : Char) : Bool := '0' ≤ c && c ≤ '7'

/-- Whether the character is a hexadecimal digit. -/
def isHex (c : Char) : Bool := (hexValue? c).isSome

/-- The number that octal digits write. -/
def octalNumber (cs : List Char) : Nat := cs.foldl (fun n c => n * 8 + (c.toNat - 0x30)) 0

/-- The characters that a letter stands for after a backslash. -/
def controlEscape? : Char → Option Char
  | 'a' => some (Char.ofNat 7)
  | 'b' => some (Char.ofNat 8)
  | 'f' => some (Char.ofNat 12)
  | 'n' => some '\n'
  | 'r' => some '\r'
  | 't' => some '\t'
  | 'v' => some (Char.ofNat 11)
  | '\\' => some '\\'
  | _ => none

/-- The categories that a letter stands for after a backslash. -/
def categoryEscape? : Char → Option SetItem
  | 'd' => some (.category .digit false)
  | 'D' => some (.category .digit true)
  | 's' => some (.category .space false)
  | 'S' => some (.category .space true)
  | 'w' => some (.category .word false)
  | 'W' => some (.category .word true)
  | _ => none

/-- The anchors that a letter stands for after a backslash. -/
def anchorEscape? : Char → Option Anchor
  | 'A' => some .textStart
  | 'b' => some .boundary
  | 'B' => some .inside
  | 'Z' => some .textEnd
  | _ => none

/-- Reads an escape by a number of hexadecimal digits. A code of more than thirty-one bits is a defect of
its own. -/
def hexEscape (c : Char) (digits : Nat) : Read Char := do
  let hex ← takeUpTo isHex digits
  let escape := '\\' :: c :: hex
  if hex.length != digits then
    complain (.incompleteEscape (String.ofList escape)) escape.length
  else
    let code := hexNumber hex
    if 0x80000000 ≤ code then throw (.defect (.code code))
    else if 0x110000 ≤ code then complain (.badEscape (String.ofList escape)) escape.length
    else return Char.ofNat code

/-- Reads an escape by the name of a character. -/
def nameEscape : Read Char := do
  if !(← takeIf '\x7b') then refuse (.missing "\x7b")
  let name ← takeName '\x7d' "character name"
  match characterNamed? (String.ofList name) with
  | some c => return c
  | none => complain (.undefinedCharacter (String.ofList name)) (name.length + 4)

/-- Reads an escape that means the same inside and outside a character set: by number or name, or a
character that is no letter. -/
def commonEscape (c : Char) : Read Char := do
  match c with
  | 'x' => hexEscape c 2
  | 'u' => hexEscape c 4
  | 'U' => hexEscape c 8
  | 'N' => nameEscape
  | _ =>
    if c.isAlphanum then complain (.badEscape (String.ofList ['\\', c])) 2
    else return c

/-- Reads an escape inside a character set. -/
def setEscape (c : Char) : Read SetItem := do
  match controlEscape? c, categoryEscape? c with
  | some d, _ => return .char d
  | none, some item => return item
  | none, none =>
    if isOctal c then
      let more ← takeUpTo isOctal 2
      let escape := '\\' :: c :: more
      let code := octalNumber (c :: more)
      if 0o377 < code then complain (.octalTooLarge (String.ofList escape)) escape.length
      else return .char (Char.ofNat code)
    else return .char (← commonEscape c)

/-- Reads a reference to a group by number. -/
def groupReference (digits : List Char) : Read Form := do
  let index := decimalNumber digits
  let length := digits.length + 1
  if index < (← get).widths.size then
    if !(← isClosed index) then complain .openGroup length
    else
      checkBehind index
      return .reference index
  else complain (.noSuchGroup index) (length - 1)

/-- Reads an escape that begins with a digit other than zero: three octal digits write a character,
anything else refers to a group. -/
def digitEscape (c : Char) : Read Form := do
  match ← takeUpTo Char.isDigit 1 with
  | [d] =>
    if isOctal c && isOctal d then
      match ← takeUpTo isOctal 1 with
      | [e] =>
        let code := octalNumber [c, d, e]
        if 0o377 < code then complain (.octalTooLarge (String.ofList ['\\', c, d, e])) 4
        else return .char (Char.ofNat code)
      | _ => groupReference [c, d]
    else groupReference [c, d]
  | _ => groupReference [c]

/-- Reads an escape outside character sets. -/
def escape (c : Char) : Read Form := do
  match anchorEscape? c, categoryEscape? c, controlEscape? c with
  | some a, _, _ => return .anchor a
  | none, some item, _ => return .set false [item]
  | none, none, some d => return .char d
  | none, none, none =>
    if c == '0' then
      let more ← takeUpTo isOctal 2
      return .char (Char.ofNat (octalNumber more))
    else if c.isDigit then digitEscape c
    else return .char (← commonEscape c)

/-! ## Character sets -/

/-- Reads what one token of a character set stands for. -/
def setMember (t : List Char) : Read SetItem := do
  match t with
  | ['\\', c] => setEscape c
  | c :: _ => return .char c
  | [] => return .char '\x00'

/-- Reads the members of a character set up to its end; `fuel` bounds their number. -/
def setMembers (start : Nat) : (fuel : Nat) → (members : List SetItem) → Read (List SetItem)
  | 0, members => return members
  | fuel + 1, members => do
    match ← take? with
    | none => complain .unterminatedSet ((← here) - start)
    | some t =>
      -- A closing bracket in the first place is a member.
      if t == [']'] && !members.isEmpty then return members
      else
        let first ← setMember t
        if ← takeIf '-' then
          match ← take? with
          | none => complain .unterminatedSet ((← here) - start)
          | some u =>
            -- So is a dash in the last place.
            if u == [']'] then return members ++ [first, .char '-']
            else
              let second ← setMember u
              let bad : Read (List SetItem) :=
                complain (.badRange (String.ofList t) (String.ofList u)) (t.length + 1 + u.length)
              match first, second with
              | .char a, .char b =>
                if b < a then bad else setMembers start fuel (members ++ [.range a b])
              | _, _ => bad
        else setMembers start fuel (members ++ [first])

/-- Reads a character set after its opening bracket. -/
def charSet : Read Form := do
  let start := (← here) - 1
  let negated ← takeIf '^'
  -- A set of a single character asks for the character.
  match ← setMembers start ((← get).rest.length + 1) [] with
  | [.char c] => return if negated then .notChar c else .char c
  | members => return .set negated members

/-! ## Repetition -/

/-- What a repetition sign asks for. -/
structure Bounds where
  least : Nat
  greatest : Option Nat

/-- A repetition count, within the bound. -/
def count (digits : List Char) : Read Nat := do
  if digitLimit < digits.length then throw (.defect (.digits digits.length))
  let n := decimalNumber digits
  if countBound ≤ n then throw (.defect .repetition) else return n

/-- Reads the counts after an opening brace; no counts make the brace an ordinary character. -/
def braceBounds? : Read (Option Bounds) := do
  if (← next?) == some ['\x7d'] then return none
  let start ← get
  let length := start.rest.length
  let least ← takeUpTo Char.isDigit length
  let greatest ← if ← takeIf ',' then takeUpTo Char.isDigit length else pure least
  if !(← takeIf '\x7d') then
    -- Without a closing brace nothing has been read, and the opening one stands for itself.
    set start
    return none
  let low ← if least.isEmpty then pure 0 else count least
  if greatest.isEmpty then return some ⟨low, none⟩
  let high ← count greatest
  if high < low then complain .leastAboveGreatest ((← here) - (start.rest.head?.map (·.position)).getD 0)
  else return some ⟨low, some high⟩

/-- Whether a repetition may not be repeated again, or nothing can be repeated. -/
def repetitionComplaint? : Option Form → Option Complaint
  | none => some .nothingToRepeat
  | some (.anchor _) => some .nothingToRepeat
  | some (.repeated _ _ _ _) => some .repeatedRepetition
  | some _ => none

/-- Reads the sign of a repetition's eagerness. -/
def eagernessSign : Read Eagerness := do
  if ← takeIf '?' then return .lazy
  else if ← takeIf '+' then return .possessive
  else return .greedy

/-- A form without the group around it, if the group does nothing else than to hold it together. -/
def ungrouped : Form → Form
  | .scoped [] [] body => body
  | form => form

/-- Reads the rest of a repetition, whose sign ended at `start` and had the length `length`, of the
last of the forms in front of it (last first). -/
def repetition (start length : Nat) (bounds : Bounds) (before : List Form) : Read (List Form) := do
  match repetitionComplaint? before.head?, before with
  | some complaint, _ => complain complaint ((← here) - start + length)
  | none, body :: others =>
    return .repeated (← eagernessSign) bounds.least bounds.greatest (ungrouped body) :: others
  | none, [] => return []

/-! ## Flags -/

/-- Whether a token is a single letter. -/
def isLetter : List Char → Bool
  | [c] => isIdentifierStart c && c != '_'
  | _ => false

/-- The complaint about a letter that is no flag, or about something else in its place. -/
def flagComplaint (t : List Char) (what : String) : Complaint :=
  if isLetter t then .unknownFlag else .missing what

/-- Reads the flags that are turned on, from the letter `t` on, and the token that ends them. -/
def flagsOn : (fuel : Nat) → (t : List Char) → (on : List Flag) → Read (List Flag × List Char)
  | 0, t, on => return (on, t)
  | fuel + 1, t, on => do
    match Flag.ofLetter? t with
    | none => complain (flagComplaint t "-, : or )") t.length
    | some flag =>
      if flag == .locale then
        refuse (.inlineFlags "cannot use 'L' flag with a str pattern")
      let on := on ++ [flag]
      if flag.choosesSet && on.any fun x => x.choosesSet && x != flag then
        refuse (.inlineFlags "flags 'a', 'u' and 'L' are incompatible")
      match ← take? with
      | none => refuse (.missing "-, : or )")
      | some u =>
        if u == [')'] || u == ['-'] || u == [':'] then return (on, u) else flagsOn fuel u on

/-- Reads the flags that are turned off, from the letter `t` on, up to the colon. -/
def flagsOff : (fuel : Nat) → (t : List Char) → (off : List Flag) → Read (List Flag)
  | 0, _, off => return off
  | fuel + 1, t, off => do
    match Flag.ofLetter? t with
    | none => complain (flagComplaint t (if off.isEmpty then "flag" else ":")) t.length
    | some flag =>
      if flag.choosesSet then
        refuse (.inlineFlags "cannot turn off flags 'a', 'u' and 'L'")
      let off := off ++ [flag]
      match ← take? with
      | none => refuse (.missing ":")
      | some u => if u == [':'] then return off else flagsOff fuel u off

/-- Reads flags from the letter or dash `t` on; flags for the whole pattern are recorded and give
nothing. -/
def inlineFlags (t : List Char) : Read (Option (List Flag × List Flag)) := do
  let fuel := (← get).rest.length + 2
  let (on, close) ← if t == ['-'] then pure ([], t) else flagsOn fuel t []
  if close == [')'] then
    modify fun r => { r with flags := r.flags ++ on }
    return none
  -- What concerns the whole pattern cannot be turned on or off for a part of it.
  if on.contains .unrepeated then
    complain (.inlineFlags "cannot turn on global flag") 1
  let off ← if close != ['-'] then pure [] else
    match ← take? with
    | none => refuse (.missing "flag")
    | some u => flagsOff fuel u []
  if off.contains .unrepeated then
    complain (.inlineFlags "cannot turn off global flag") 1
  if on.any off.contains then
    complain (.inlineFlags "flag turned on and off") 1
  return some (on, off)

/-! ## Groups and sequences -/

/-- What an opening parenthesis and the signs after it announce. -/
inductive Opening where
  /-- Something that has been read whole; a comment or flags give nothing. -/
  | whole (form : Option Form)
  | capture (name : Option String)
  | scoped (on off : List Flag)
  | atomic
  | ahead (negated : Bool)
  | behind (negated : Bool)
  | choice (index : Nat)

/-- Reads the name of a group, which must be an identifier. -/
def groupName (close : Char) : Read String := do
  let name ← takeName close "group name"
  if isIdentifier name then return String.ofList name
  else complain (.badGroupName (String.ofList name)) (name.length + 1)

/-- Reads a reference to a group by name. -/
def namedReference : Read Form := do
  let name ← groupName ')'
  match (← get).names.lookup name with
  | none => complain (.unknownGroupName name) (name.length + 1)
  | some index =>
    if !(← isClosed index) then complain .openGroup (name.length + 1)
    checkBehind index
    return .reference index

/-- Skips a comment that began at `start`; `fuel` bounds its length. -/
def skipComment (start : Nat) : (fuel : Nat) → Read Unit
  | 0 => return
  | fuel + 1 => do
    if (← next?).isNone then complain (.missing "), unterminated comment") ((← here) - start)
    if (← take?) != some [')'] then skipComment start fuel

/-- Reads the group that a condition asks about. -/
def conditionGroup : Read Nat := do
  let name ← takeName ')' "group name"
  let text := String.ofList name
  let back := name.length + 1
  let index ← if isIdentifier name then
      match (← get).names.lookup text with
      | some index => pure index
      | none => complain (.unknownGroupName text) back
    else match Number.readInteger? 10 name with
      | none => complain (.badGroupName text) back
      | some n =>
        if n < 0 then complain (.badGroupName text) back
        else if n == 0 then complain .badGroupNumber back
        else if groupBound ≤ n.toNat then complain (.noSuchGroup n.toNat) back
        else do
          -- The group may come later, so that a number is checked when the whole pattern has been read.
          let position := (← here) - name.length - 1
          modify fun r =>
            if (r.references.lookup n.toNat).isSome then r
            else { r with references := r.references ++ [(n.toNat, position)] }
          pure n.toNat
  checkBehind index
  return index

/-- Reads what follows the letter of extensions by name. -/
def namedOpening : Read Opening := do
  if ← takeIf '<' then return .capture (some (← groupName '>'))
  else if ← takeIf '=' then return .whole (some (← namedReference))
  else match ← take? with
    | none => refuse .unexpectedEnd
    | some t => complain (.unknownExtension ("?P" ++ String.ofList t)) (t.length + 2)

/-- Reads the signs after an opening parenthesis at `start`; `atStart` says whether flags for the
whole pattern may stand here. -/
def opening (start : Nat) (atStart : Bool) : Read Opening := do
  if !(← takeIf '?') then return .capture none
  match ← take? with
  | none => refuse .unexpectedEnd
  | some t =>
    match t with
    | ['P'] => namedOpening
    | [':'] => return .scoped [] []
    | ['#'] => do
      skipComment start ((← get).rest.length + 1)
      return .whole none
    | ['='] => return .ahead false
    | ['!'] => return .ahead true
    | ['<'] => do
      match ← take? with
      | none => refuse .unexpectedEnd
      | some ['='] => return .behind false
      | some ['!'] => return .behind true
      | some u => complain (.unknownExtension ("?<" ++ String.ofList u)) (u.length + 2)
    | ['('] => return .choice (← conditionGroup)
    | ['>'] => return .atomic
    | _ =>
      if (Flag.ofLetter? t).isSome || t == ['-'] then
        match ← inlineFlags t with
        | some (on, off) => return .scoped on off
        | none =>
          if atStart then return .whole none else complain .lateFlags ((← here) - start)
      else complain (.unknownExtension ("?" ++ String.ofList t)) (t.length + 1)

/-- Skips a comment of a verbose pattern up to the end of its line; `fuel` bounds its length. -/
def skipLine : (fuel : Nat) → Read Unit
  | 0 => return
  | fuel + 1 => do
    match ← take? with
    | none => return
    | some t => if t == ['\n'] then return else skipLine fuel

/-- The width of what stands before a condition, which must be fixed. The complaint is kept until the
whole pattern has been read. -/
def behindWidth (body : Form) : Read Nat := do
  let (least, greatest) := body.width (← get).widths
  if least != greatest then
    modify fun r => { r with varying := r.varying <|> some .varyingLookbehind }
  else if Nat.pow 2 32 ≤ least then
    modify fun r => { r with varying := r.varying <|> some .distantLookbehind }
  return least

/-- Complains unless a group that began at `start` is closed. -/
def closeParenthesis (start : Nat) : Read Unit := do
  if !(← takeIf ')') then
    complain (.missing "), unterminated subpattern") ((← here) - start)

/-- Where a part of a pattern stands. -/
structure Context where
  verbose : Bool
  /-- Whether the part stands in no group. -/
  outermost : Bool
  /-- Whether flags for the whole pattern may begin the part. -/
  first : Bool

mutual

/-- Reads alternatives. -/
def alternatives : (fuel : Nat) → Context → Read Form
  | 0, _ => return .empty
  | fuel + 1, context => do
    let form ← sequence fuel context []
    if ← takeIf '|' then
      -- Outside of groups the flags that the first alternative has turned on count for the others.
      let flags := (← get).flags
      let verbose := if context.outermost then flags.contains .verbose else context.verbose
      return .either form (← alternatives fuel { context with verbose, first := false })
    else return form

/-- Reads forms in sequence after `before` (last first), up to a bar, a closing parenthesis or the
end. -/
def sequence : (fuel : Nat) → Context → (before : List Form) → Read Form
  | 0, _, before => return .ofList before.reverse
  | fuel + 1, context, before => do
    match ← next? with
    | none => return .ofList before.reverse
    | some t =>
      if t == ['|'] || t == [')'] then return .ofList before.reverse
      let _ ← take?
      let literal (c : Char) := sequence fuel context (.char c :: before)
      let sign (bounds : Bounds) := do
        sequence fuel context (← repetition (← here) t.length bounds before)
      match t with
      | ['\\', c] => sequence fuel context ((← escape c) :: before)
      | [c] =>
        if context.verbose && (isPlainBlank c) then sequence fuel context before
        else if context.verbose && c == '#' then
          skipLine ((← get).rest.length + 1)
          sequence fuel context before
        else match c with
          | '[' => sequence fuel context ((← charSet) :: before)
          | '?' => sign ⟨0, some 1⟩
          | '*' => sign ⟨0, none⟩
          | '+' => sign ⟨1, none⟩
          | '\x7b' => do
            let start ← here
            match ← braceBounds? with
            | none => literal c
            | some bounds =>
              sequence fuel context (← repetition start t.length bounds before)
          | '.' => sequence fuel context (.any :: before)
          | '^' => sequence fuel context (.anchor .lineStart :: before)
          | '$' => sequence fuel context (.anchor .lineEnd :: before)
          | '(' => do
            let start := (← here) - 1
            match ← opening start (context.first && before.isEmpty) with
            -- A comment, or flags that may have made the pattern verbose.
            | .whole none =>
              let flags := (← get).flags
              let verbose := context.verbose
                || (context.first && before.isEmpty && flags.contains .verbose)
              sequence fuel { context with verbose } before
            | .whole (some form) => sequence fuel context (form :: before)
            | shape => sequence fuel context ((← group fuel start context shape) :: before)
          | _ => literal c
      | _ => return .ofList before.reverse

/-- Reads the body of a group that began at `start`, and its end. -/
def group : (fuel : Nat) → (start : Nat) → Context → Opening → Read Form
  | 0, _, _, _ => return .empty
  | fuel + 1, start, context, shape => do
    let inner : Context := { context with outermost := false, first := false }
    match shape with
    | .whole form => return form.getD .empty
    | .capture name => do
      let index ← openGroup name
      let body ← alternatives fuel inner
      closeParenthesis start
      closeGroup index (body.width (← get).widths)
      return .capture index body
    | .scoped on off => do
      let verbose := (context.verbose || on.contains .verbose) && !off.contains .verbose
      let body ← alternatives fuel { inner with verbose }
      closeParenthesis start
      return .scoped on off body
    | .atomic => do
      let body ← alternatives fuel inner
      closeParenthesis start
      return .atomic body
    | .ahead negated => do
      let body ← alternatives fuel inner
      closeParenthesis start
      return .ahead negated body
    | .behind negated => do
      let outer := (← get).behindGroups
      -- The outermost of nested conditions says which groups stand in front of all of them.
      if outer.isNone then
        modify fun r => { r with behindGroups := some r.widths.size }
      let body ← alternatives fuel inner
      if outer.isNone then modify fun r => { r with behindGroups := none }
      closeParenthesis start
      return .behind negated (← behindWidth body) body
    | .choice index => do
      let yes ← sequence fuel inner []
      let no ← if ← takeIf '|' then do
          let no ← sequence fuel inner []
          if (← next?) == some ['|'] then refuse .tooManyBranches
          pure no
        else pure .empty
      closeParenthesis start
      return .choice index yes no

end

/-! ## Whole patterns -/

/-- The repetition that a form contains first, if it contains one. -/
def Form.firstRepetition? : Form → Option Eagerness
  | .seq a b => a.firstRepetition? <|> b.firstRepetition?
  | .either a b => a.firstRepetition? <|> b.firstRepetition?
  | .capture _ body => body.firstRepetition?
  | .scoped _ _ body => body.firstRepetition?
  | .atomic body => body.firstRepetition?
  | .ahead _ body => body.firstRepetition?
  | .behind _ _ body => body.firstRepetition?
  | .choice _ yes no => yes.firstRepetition? <|> no.firstRepetition?
  | .repeated e _ _ _ => some e
  | _ => none

/-- Reads a whole pattern. -/
def wholePattern : Read Form := do
  checkNext
  let form ← alternatives (3 * (← get).size + 10) ⟨false, true, true⟩
  let r ← get
  if r.flags.contains .ascii && r.flags.contains .unicode then throw (.defect .characterSets)
  if (← next?).isSome then refuse .unbalanced
  -- What could not be judged on the way is judged now, in this order.
  match r.references.find? fun (index, _) => r.widths.size ≤ index with
  | some (index, position) => throw (.malformed ⟨.noSuchGroup index, some position⟩)
  | none => pure ()
  match r.varying with
  | some complaint => throw (.malformed ⟨complaint, none⟩)
  | none => pure ()
  if r.flags.contains .unrepeated then
    if let some e := form.firstRepetition? then
      throw (.malformed ⟨.unsupportedRepetition e, none⟩)
  return form

/-- Reads a text as a pattern, and gives what the reader has learned. -/
def readPattern (cs : List Char) : Except Fault (Form × Reader) :=
  wholePattern.run
    { rest := tokensFrom 0 cs
      size := cs.length
      flags := []
      names := []
      widths := #[none]
      behindGroups := none
      references := []
      varying := none }

end TemplateRules.Pattern
