import Lookalike.Files.Path

/-!
# File trees

A file tree is a folder at the root and the place of the working directory.  Places are
lists of names from the root.  `FileTree.follow` walks a path step by step, as reading a
file does: a link leads on from the folder that holds it, and two dots lead up from
where the walk stands.  `FileTree.resolve` says where a path leads even if nothing is
there.
-/

namespace Lookalike

/-- What stands at a place in a file tree. -/
inductive Node where
  | file (content : ByteArray)
  | folder (entries : List (String × Node))
  | link (target : Path)
  deriving Inhabited

namespace Node

/-- What a folder holds under a name. -/
def child? (node : Node) (name : String) : Option Node :=
  match node with
  | folder entries => (entries.find? (·.1 == name)).map (·.2)
  | _ => none

/-- What stands at the end of a list of names.  Links are not followed. -/
def at? (node : Node) : List String → Option Node
  | [] => some node
  | name :: names => (node.child? name).bind (at? · names)

mutual

/-- How many links there are. -/
def linkCount : Node → Nat
  | file _ => 0
  | link _ => 1
  | folder entries => linkCounts entries

def linkCounts : List (String × Node) → Nat
  | [] => 0
  | (_, node) :: entries => node.linkCount + linkCounts entries

end

/-- Puts a value in the place of the first entry of a name, or behind all entries. -/
def setEntry (name : String) (value : Node) : List (String × Node) → List (String × Node)
  | [] => [(name, value)]
  | (other, node) :: entries =>
      if other == name then (name, value) :: entries
      else (other, node) :: setEntry name value entries

/-- The entries of a folder; anything else has none. -/
def entries : Node → List (String × Node)
  | folder entries => entries
  | _ => []

/-- Puts a value at a place.  Folders on the way are made where there are none; a folder
that already stands there keeps its entries when a folder is put there. -/
def insert (node value : Node) : List String → Node
  | [] =>
      match node, value with
      | folder _, folder [] => node
      | _, _ => value
  | name :: names =>
      folder (setEntry name (insert ((node.child? name).getD (folder [])) value names)
        node.entries)

end Node

/-- A file tree and the place of the working directory in it. -/
structure FileTree where
  root : Node := .folder []
  home : List String := []
  deriving Inhabited

/-- Why nothing can be read at the end of a path. -/
inductive FileFault where
  | missing
  | notAFolder
  | isAFolder
  | tooManyLinks
  | nameTooLong
  deriving DecidableEq, Inhabited

namespace FileFault

/-- The system's number for a fault. -/
def number : FileFault → Nat
  | missing => 2
  | notAFolder => 20
  | isAFolder => 21
  | tooManyLinks => 40
  | nameTooLong => 36

/-- The system's words for a fault. -/
def words : FileFault → String
  | missing => "No such file or directory"
  | notAFolder => "Not a directory"
  | isAFolder => "Is a directory"
  | tooManyLinks => "Too many levels of symbolic links"
  | nameTooLong => "File name too long"

end FileFault

/-- How many links are followed on the way along one path. -/
def mostLinks : Nat := 40

/-- How many bytes a file's name has at most. -/
def longestName : Nat := 255

namespace FileTree

/-- Where a path begins. -/
def start (tree : FileTree) (path : Path) : List String :=
  if path.isAbsolute then [] else tree.home

/-- Where a link in a folder leads on from. -/
def linkStart (folder : List String) (target : Path) : List String :=
  if target.isAbsolute then [] else folder

/-- One name up from a place; nothing lies above the root. -/
def parent (place : List String) : List String := place.dropLast

/-- Follows names from a place, with a number of links yet to be followed, to the place
of a file or a folder. -/
def follow (tree : FileTree) (links : Nat) (place names : List String) :
    Except FileFault (List String) :=
  match names with
  | [] => .ok place
  | name :: rest =>
      match tree.root.at? place with
      | some (.folder entries) =>
          if name = ".." then follow tree links (parent place) rest
          else if longestName < name.utf8ByteSize then .error .nameTooLong
          else
            match (Node.folder entries).child? name with
            | none => .error .missing
            | some (.link target) =>
                match links with
                | 0 => .error .tooManyLinks
                | links + 1 => follow tree links (linkStart place target) (target.names ++ rest)
            | some _ => follow tree links (place ++ [name]) rest
      | some _ => .error .notAFolder
      | none => .error .missing
termination_by (links, names.length)

/-- What stands at the end of a path, links being followed. -/
def find (tree : FileTree) (path : Path) : Except FileFault Node := do
  let place ← tree.follow mostLinks (tree.start path) path.names
  match tree.root.at? place with
  | some node => return node
  | none => throw .missing

/-- Whether there is a file or a folder at the end of a path. -/
def exists? (tree : FileTree) (path : Path) : Bool :=
  (tree.find path).isOk

/-- Whether there is a folder at the end of a path. -/
def isFolder (tree : FileTree) (path : Path) : Bool :=
  match tree.find path with
  | .ok (.folder _) => true
  | _ => false

/-- The bytes of the file at the end of a path. -/
def read (tree : FileTree) (path : Path) : Except FileFault ByteArray := do
  match ← tree.find path with
  | .file content => return content
  | .folder _ => throw .isAFolder
  | .link _ => throw .missing

/-! ### Where paths lead -/

/-- Goes on from a place by the names alone. -/
def stepAlong (place : List String) (name : String) : List String :=
  if name = ".." then parent place else place ++ [name]

/-- Follows names from a place as far as there is anything, with the links that are being
followed already.  The flag tells whether no link led back to itself; from such a link
on, names count alone. -/
def resolveFrom (tree : FileTree) (depth : Nat) (active : List (List String))
    (place names : List String) : List String × Bool :=
  match names with
  | [] => (place, true)
  | name :: rest =>
      if name = ".." then resolveFrom tree depth active (parent place) rest
      else
        let next := place ++ [name]
        match tree.root.at? next with
        | some (.link target) =>
            if active.contains next then (rest.foldl stepAlong next, false)
            else
              match depth with
              | 0 => (rest.foldl stepAlong next, false)
              | depth + 1 =>
                  match resolveFrom tree depth (next :: active) (linkStart place target)
                      target.names with
                  | (reached, true) => resolveFrom tree (depth + 1) active reached rest
                  | (reached, false) => (rest.foldl stepAlong reached, false)
        | _ => resolveFrom tree depth active next rest
termination_by (depth, names.length)

/-- The place that a path leads to, whether anything is there or not. -/
def placeOf (tree : FileTree) (path : Path) : List String :=
  (tree.resolveFrom tree.root.linkCount [] (tree.start path) path.names).1

/-- The absolute path without links and double dots that a path leads to. -/
def resolve (tree : FileTree) (path : Path) : Path :=
  { root := "/", names := tree.placeOf path }

/-- The absolute path of the working directory. -/
def homePath (tree : FileTree) : Path :=
  { root := "/", names := tree.home }

/-- Puts a file, a folder or a link into the tree.  A link goes where its path says; all
else goes where its path leads. -/
def insert (tree : FileTree) (path : Path) (node : Node) : FileTree :=
  let place :=
    match node with
    | .link _ =>
        tree.placeOf { path with names := path.names.dropLast } ++ path.names.getLast?.toList
    | _ => tree.placeOf path
  { tree with root := tree.root.insert node place }

/-- A file tree that holds nothing but a working directory. -/
def empty (home : List String) : FileTree :=
  { root := (Node.folder []).insert (.folder []) home, home := home }

end FileTree

end Lookalike
