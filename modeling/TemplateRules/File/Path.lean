import TemplateRules.Text.CodeRanges

/-!
# Paths

A path is an optional root and a sequence of names. Empty names and single dots carry no meaning and
are dropped; double dots stay, because what they mean depends on the files.
-/

namespace TemplateRules

open Text (splitOn)

/-- A path. -/
structure Path where
  /-- The slashes that an absolute path begins with. -/
  root : String
  names : List String
deriving DecidableEq

namespace Path

/-- The root of a text: exactly two slashes are a root of their own. -/
def rootOf : List Char → String
  | ['/', '/'] => "//"
  | '/' :: '/' :: c :: _ => if c == '/' then "/" else "//"
  | '/' :: _ => "/"
  | _ => ""

/-- The path that a text writes. -/
def ofText (s : String) : Path where
  root := rootOf s.toList
  names := ((splitOn (· == '/') s.toList).filter fun n => n != [] && n != ['.']).map String.ofList

/-- The text of a path; the empty path is a dot. -/
def text (p : Path) : String :=
  if p.root.isEmpty && p.names.isEmpty then "." else p.root ++ "/".intercalate p.names

/-- Whether the path has a root. -/
def isAbsolute (p : Path) : Bool := !p.root.isEmpty

/-- The path without its last name. -/
def parent (p : Path) : Path := { p with names := p.names.dropLast }

/-- The last name of a path, or nothing. -/
def name (p : Path) : String := p.names.getLast?.getD ""

/-- A path inside another one; an absolute path stays as it is. -/
def join (base p : Path) : Path :=
  if p.isAbsolute then p else { base with names := base.names ++ p.names }

end Path

end TemplateRules
