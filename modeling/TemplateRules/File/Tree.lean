import TemplateRules.File.Path
import TemplateRules.Text.Quoted
import TemplateRules.Text.Search

/-!
# File trees

The files that a run can see: a value that maps places to files and directories. A path is followed
name by name, so that a missing directory and a file in the place of one are told apart.
-/

namespace TemplateRules

/-- Why a file cannot be used. -/
inductive FileReason where
  | notFound
  | exists
  | notDirectory
  | isDirectory
  | denied
deriving DecidableEq

/-- A failed access, with the path as it was asked for. -/
structure FileFault where
  reason : FileReason
  path : String
deriving DecidableEq

/-- The number of a reason. -/
def FileReason.number : FileReason → Nat
  | .notFound => 2
  | .denied => 13
  | .exists => 17
  | .notDirectory => 20
  | .isDirectory => 21

/-- The wording of a reason. -/
def FileReason.text : FileReason → String
  | .notFound => "No such file or directory"
  | .denied => "Permission denied"
  | .exists => "File exists"
  | .notDirectory => "Not a directory"
  | .isDirectory => "Is a directory"

/-- The wording of a failed access. -/
def FileFault.message (f : FileFault) : String :=
  s!"[Errno {f.reason.number}] " ++ f.reason.text ++ ": " ++ Text.quoted f.path

/-- What is at a place. -/
inductive FileEntry where
  | file (content : ByteArray)
  | directory
  /-- Something that may not be read. -/
  | sealed

/-- A place: the names from the root on. -/
abbrev FilePlace := List String

/-- The files and directories, and the place that relative paths begin at. -/
structure FileTree where
  entries : List (FilePlace × FileEntry)
  base : FilePlace

namespace FileTree

/-! ## Looking -/

/-- What is at a place; the root is a directory. -/
def at? (t : FileTree) (place : FilePlace) : Option FileEntry :=
  if place.isEmpty then some .directory else t.entries.lookup place

/-- Follows names from a directory on. -/
def follow (t : FileTree) : (place : FilePlace) → (names : List String) → Except FileReason FilePlace
  | place, [] => .ok place
  | place, name :: names =>
    match t.at? place with
    | some .directory =>
      -- Above the root there is only the root.
      t.follow (if name == ".." then place.dropLast else place ++ [name]) names
    | some _ => .error .notDirectory
    | none => .error .notFound

/-- The place that a path leads to. -/
def place (t : FileTree) (p : Path) : Except FileReason FilePlace :=
  t.follow (if p.isAbsolute then [] else t.base) p.names

/-- What a path leads to. -/
def entry (t : FileTree) (p : Path) : Except FileReason FileEntry := do
  match t.at? (← t.place p) with
  | some e => return e
  | none => throw .notFound

/-- Whether a path leads to a directory. -/
def isDirectory (t : FileTree) (p : Path) : Bool :=
  match t.entry p with
  | .ok .directory => true
  | _ => false

/-- Whether a path leads to a file, readable or not. -/
def isFile (t : FileTree) (p : Path) : Bool :=
  match t.entry p with
  | .ok (.file _) => true
  | .ok .sealed => true
  | _ => false

/-- Whether anything below a directory, at any depth, has a name with the ending. -/
def hasBelow (t : FileTree) (p : Path) (ending : String) : Bool :=
  match t.place p with
  | .error _ => false
  | .ok place => t.entries.any fun (q, _) =>
    place.isPrefixOf q && place.length < q.length && Text.endsWith (q.getLast?.getD "") ending

/-! ## Reading -/

/-- The text with one line end for every kind of them. -/
def unifyLineEnds : List Char → List Char
  | [] => []
  | '\r' :: '\n' :: cs => '\n' :: unifyLineEnds cs
  | c :: cs => (if c == '\r' then '\n' else c) :: unifyLineEnds cs

/-- What reading a file as text gives: the text, or nothing if its bytes are no text. -/
def read (t : FileTree) (p : Path) : Except FileFault (Option String) :=
  match t.entry p with
  | .error reason => .error ⟨reason, p.text⟩
  | .ok .directory => .error ⟨.isDirectory, p.text⟩
  | .ok .sealed => .error ⟨.denied, p.text⟩
  | .ok (.file bytes) =>
    .ok ((String.fromUTF8? bytes).map fun s => String.ofList (unifyLineEnds s.toList))

/-! ## Writing -/

/-- The tree with an entry at a place. -/
def put (t : FileTree) (place : FilePlace) (e : FileEntry) : FileTree :=
  { t with entries := t.entries.filter (·.1 != place) ++ [(place, e)] }

/-- The tree without what is at a place. -/
def remove (t : FileTree) (place : FilePlace) : FileTree :=
  { t with entries := t.entries.filter (·.1 != place) }

/-- The tree with a directory at each of the places that lead to a place, and at itself. -/
def withDirectories (t : FileTree) (place : FilePlace) : FileTree :=
  ((List.range place.length).map fun n => place.take (n + 1)).foldl
    (fun t q => if (t.at? q).isSome then t else t.put q .directory) t

/-- Makes one directory. -/
def makeOne (t : FileTree) (p : Path) : Except FileReason FileTree := do
  let place ← t.place p
  match t.at? place with
  | some _ => throw .exists
  | none =>
    match t.at? place.dropLast with
    | some .directory => return t.put place .directory
    | some _ => throw .notDirectory
    | none => throw .notFound

/-- Makes a directory that may be there already, and those above it; `depth` bounds their number. -/
def makeUpTo (t : FileTree) (p : Path) : (depth : Nat) → Except FileFault FileTree
  | 0 => .error ⟨.notFound, p.text⟩
  | depth + 1 =>
    match t.makeOne p with
    | .ok t => .ok t
    | .error .notFound =>
      if p.names.isEmpty then .error ⟨.notFound, p.text⟩
      else
        match makeUpTo t p.parent depth with
        | .error fault => .error fault
        | .ok t =>
          match t.makeOne p with
          | .ok t => .ok t
          | .error reason => if t.isDirectory p then .ok t else .error ⟨reason, p.text⟩
    -- Any other obstacle is one only if there is no directory yet.
    | .error reason => if t.isDirectory p then .ok t else .error ⟨reason, p.text⟩

/-- Makes a directory that may be there already, and those above it. -/
def makeDirectories (t : FileTree) (p : Path) : Except FileFault FileTree :=
  t.makeUpTo p (p.names.length + 1)

/-- Writes a text to a file. -/
def write (t : FileTree) (p : Path) (content : String) : Except FileFault FileTree :=
  let outcome : Except FileReason FileTree := do
    let place ← t.place p
    match t.at? place, t.at? place.dropLast with
    | some .directory, _ => throw .isDirectory
    | some .sealed, _ => throw .denied
    | _, some .directory => return t.put place (.file content.toUTF8)
    | _, some _ => throw .notDirectory
    | _, none => throw .notFound
  match outcome with
  | .ok t => .ok t
  | .error reason => .error ⟨reason, p.text⟩

end FileTree

end TemplateRules
