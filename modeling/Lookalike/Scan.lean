import Lookalike.Config
import Lookalike.Files.Tree
import Lookalike.Harvest.Error

/-!
# Finding source files

A scan goes through a folder and the folders below it, leaving out folders with excluded
names, and finds the files whose extension is one of those wanted and whose size is
within the limit.  Links to folders are not entered; links to files count as files of
their target's size.
-/

namespace Lookalike

/-- What a scan finds: files in the order of their paths, and the ones left out because of
their size. -/
structure Scan where
  files : List Path := []
  problems : List Problem := []
  deriving Inhabited

namespace Scan

mutual

/-- The names, from a folder on, of everything that is no folder and that no excluded
name leads to. -/
def leaves (excluded : List String) : Node → List (List String)
  | .folder entries => entryLeaves excluded entries
  | _ => [[]]

def entryLeaves (excluded : List String) : List (String × Node) → List (List String)
  | [] => []
  | (name, node) :: entries =>
      (match node with
        | .folder _ => if excluded.contains name then [] else leaves excluded node
        | _ => [[]]).map (name :: ·) ++
        entryLeaves excluded entries

end

/-- The extension of a file's name, with its dot.  Dots at the beginning of a name begin
no extension. -/
def extensionOf (name : List Char) : List Char :=
  let after := name.reverse.takeWhile (· ≠ '.')
  let before := name.take (name.length - after.length - 1)
  if after.length < name.length ∧ before.any (· ≠ '.') then '.' :: after.reverse else []

/-- Whether a file's name has one of the extensions wanted. -/
def isWanted (config : Config) (name : String) : Bool :=
  config.extensions.contains (String.ofList (extensionOf name.toList))

/-- The size of the file at the end of a path, if there is one. -/
def sizeOf? (tree : FileTree) (path : Path) : Option Nat :=
  match tree.find path with
  | .ok (.file content) => some content.size
  | _ => none

/-- The number of bytes in a megabyte. -/
def megabyte : Nat := 1024 * 1024

/-- The greatest size in bytes that a file may have. -/
def sizeLimit (config : Config) : Number := config.maxFileSize.scale megabyte

/-- A path with names behind it, written without dropping anything. -/
def joinedText (root : Path) (names : List String) : String :=
  let text := root.text
  (if text.endsWith "/" then text else text ++ "/") ++ "/".intercalate names

/-- The warning about a file that is too large. -/
def tooLarge (root : Path) (names : List String) (size : Nat) : Problem :=
  { severity := .warning
    message := "Skipping large file: " ++ joinedText root names ++ " (" ++
      (Binary64.ofRatio false size megabyte).fixed 1 ++ "MB)" }

-- Lists of names compare as lists do without further theory.
attribute [local instance (1100)] List.instLE List.decidableLE

/-- The order of paths: name by name. -/
def isBefore (left right : Path) : Bool := decide (left.names ≤ right.names)

/-- Scans the folder at the end of a path. -/
def ofFolder (tree : FileTree) (config : Config) (root : Path) : Scan :=
  match tree.find root with
  | .ok (.folder entries) =>
      let candidates := (entryLeaves config.excludedDirectories entries).filter fun names =>
        isWanted config (names.getLast?.getD "")
      let sized := candidates.filterMap fun names =>
        (sizeOf? tree (root.join { names := names })).map fun size => (names, size)
      let fits := fun (entry : List String × Nat) => (sizeLimit config).geInt entry.2
      { files := ((sized.filter fits).map fun entry => root.join { names := entry.1 }).mergeSort
          isBefore
        problems := (sized.filter fun entry => !fits entry).map fun entry =>
          tooLarge root entry.1 entry.2 }
  | _ => {}

end Scan

end Lookalike
