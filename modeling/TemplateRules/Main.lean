import TemplateRules.CommandLine

/-!
# The program

Loads the files that a command looks at, runs the command, shows what it has to show, and writes the
file that it leaves behind.
-/

namespace TemplateRules.Program

/-! ## Files -/

/-- Loads what is at a path into a tree, where directories below `depth` levels are left out. -/
def load (files : FileTree) (path : String) (place : FilePlace) : (depth : Nat) → IO FileTree
  | 0 => return files
  | depth + 1 => do
    let here := (← IO.currentDir) / path
    if ← here.isDir then
      let entries ← try here.readDir catch _ => pure #[]
      entries.foldlM (fun files e => load files (path ++ "/" ++ e.fileName) (place ++ [e.fileName]) depth)
        (files.withDirectories place)
    else if ← here.pathExists then
      let files := files.withDirectories place.dropLast
      try
        return files.put place (.file (← IO.FS.readBinFile here))
      catch _ => return files.put place .sealed
    else return files

/-- Loads the directories that lead to a place. -/
def loadAbove (files : FileTree) (place : FilePlace) : IO FileTree :=
  ((List.range place.length).map fun n => place.take (n + 1)).foldlM
    (fun files q => load files ("/" ++ "/".intercalate q) q 1) files

/-- The greatest depth of directories that are searched for files. -/
def searchDepth : Nat := 64

/-- Loads what is at a path, and where asked for what is below it. -/
def loadPath (files : FileTree) (depth : Nat) (path : Path) : IO FileTree := do
  let place := (if path.isAbsolute then [] else files.base) ++ path.names
  load (← loadAbove files place.dropLast) ("/" ++ "/".intercalate place) place depth

/-- The tree of the current directory, with nothing in it. -/
def currentTree : IO FileTree := do
  let place := (Path.ofText (← IO.currentDir).toString).names
  return FileTree.withDirectories ⟨[], place⟩ place

/-- Loads the files that a command looks at. -/
def loadFor (files : FileTree) : Command → IO FileTree
  | .validate rules => rules.foldlM (loadPath · 1) files
  | .apply a => ([a.template, a.rules] ++ a.output.toList).foldlM (loadPath · 1) files
  | .sources none => return files
  | .sources (some path) => do
    let files ← loadPath files 1 path
    match Settings.read files path with
    | .ok s => (s.templates.toList ++ s.documents.toList).foldlM (loadPath · searchDepth) files
    | .error _ => return files
  | _ => return files

/-! ## Environment -/

/-- The variables that a listing of the environment holds. -/
def variablesIn (listing : String) : Table String :=
  .ofEntries ((listing.splitOn (String.singleton (Char.ofNat 0))).filterMap (Text.cutAt? '='))

/-- The environment of the program. -/
def environment : IO (Table String) := do
  try
    return variablesIn (← IO.FS.readFile "/proc/self/environ")
  catch _ => return []

/-! ## Showing -/

/-- A row of a table, its cells as wide as their columns. -/
def rowText (widths : List Nat) (row : List String) : String :=
  "| " ++ " | ".intercalate ((row.zip widths).map fun (cell, width) => cell.pushn ' ' (width - cell.length))
    ++ " |"

/-- The lines of a table. -/
def tableLines (title : String) (rows : List (List String)) : List String :=
  let widths := rows.foldl (fun ws row => (row.zipWithAll (fun c w => max ((c.map String.length).getD 0)
    (w.getD 0)) ws)) []
  title :: rows.map (rowText widths)

/-- Shows one thing. -/
def put (shown : Shown) : IO Unit :=
  match shown with
  | .text s => IO.print s
  | .line s => IO.println s
  | .table title header rows => (tableLines title (header :: rows)).forM IO.println

/-- Writes the file that a command leaves behind. -/
def writeFile (path : Path) (content : String) : IO Unit := do
  if path.parent.text != "." then IO.FS.createDirAll path.parent.text
  IO.FS.writeFile path.text content

/-- Runs the command of an invocation and gives its status. -/
def runInvocation (i : Invocation) : IO UInt32 := do
  let files ← loadFor (← currentTree) i.command
  let outcome := i.command.run ⟨files, ← environment⟩
  if i.verbose then outcome.records.forM fun r => IO.eprintln r.text
  outcome.value.shown.forM put
  match outcome.value.written with
  | none => return outcome.value.status.toUInt32
  | some (path, content) =>
    writeFile path content
    return outcome.value.status.toUInt32

end TemplateRules.Program

/-- Runs the command that the words ask for; words that ask for none are a usage error. -/
def main (words : List String) : IO UInt32 := do
  match TemplateRules.Invocation.read words with
  | .ok i => TemplateRules.Program.runInvocation i
  | .error fault =>
    IO.eprintln ("Error: " ++ fault.message)
    return 2
