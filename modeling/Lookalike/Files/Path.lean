/-!
# Paths

A path is a root and the names on the way from it.  Writing a path as text drops what
makes no difference on the way: single dots and repeated slashes, but not double dots.
-/

namespace Lookalike

/-- A path in a file system. -/
structure Path where
  /-- How an absolute path begins; empty for a relative one. -/
  root : String := ""
  names : List String := []
  deriving DecidableEq, Inhabited

namespace Path

/-- Splits a text at every slash. -/
def splitSlashes (text : List Char) : List (List Char) :=
  (text.splitBy fun _ letter => letter ≠ '/').map (·.filter (· ≠ '/'))

/-- The root of a path: two slashes in a row, but no more, are a root of their own. -/
def rootOf : List Char → String
  | '/' :: '/' :: '/' :: _ => "/"
  | '/' :: '/' :: _ => "//"
  | '/' :: _ => "/"
  | _ => ""

/-- Reads a path. -/
def ofText (text : String) : Path :=
  { root := rootOf text.toList
    names := ((splitSlashes text.toList).map String.ofList).filter fun name =>
      name ≠ "" ∧ name ≠ "." }

/-- Whether a path begins at a root. -/
def isAbsolute (path : Path) : Bool := path.root ≠ ""

/-- Writes a path. -/
def text (path : Path) : String :=
  if path.root = "" ∧ path.names.isEmpty then "."
  else path.root ++ "/".intercalate path.names

/-- The path that leads on from another one; an absolute path starts afresh. -/
def join (path further : Path) : Path :=
  if further.isAbsolute then further else { path with names := path.names ++ further.names }

/-- The last name of a path, empty if there is none. -/
def name (path : Path) : String := path.names.getLast?.getD ""

/-- A name without its extension.  A dot at either end of a name begins no extension. -/
def stemOf (name : List Char) : List Char :=
  let extension := name.reverse.takeWhile (· ≠ '.')
  let stem := name.take (name.length - extension.length - 1)
  if extension.length < name.length ∧ !extension.isEmpty ∧ !stem.isEmpty then stem else name

/-- The last name of a path without its extension. -/
def stem (path : Path) : String := String.ofList (stemOf path.name.toList)

end Path

end Lookalike
