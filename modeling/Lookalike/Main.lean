import Lookalike.CommandLine

/-!
# The program

Loads the files that the words name, runs the command line on them, and writes what comes
of it.  Folders that no check enters are left out.
-/

namespace Lookalike

namespace Program

/-- The environment variables that the program knows. -/
def variableNames : List String :=
  ["NAMESAKE_SIMILARITY_THRESHOLD", "NAMESAKE_PROPAGATE_NESTED", "NAMESAKE_MAX_WORKERS",
    "NAMESAKE_LOG_LEVEL"]

/-- The environment variables that are set. -/
def readEnvironment : IO Environment := do
  let values ← variableNames.mapM fun name => do
    return (← IO.getEnv name).map fun value => (name, value)
  return values.filterMap id

/-- The width of the terminal. -/
def readColumns : IO Nat := do
  match ((← IO.getEnv "COLUMNS").bind String.toNat?) with
  | some (columns + 1) => return columns + 1
  | _ => return 80

/-- Loads what stands at a place. -/
partial def load (entry : IO.FS.DirEntry) : IO Node := do
  match (← entry.path.symlinkMetadata).type with
  | .dir =>
      let below ← entry.path.readDir
      let entered := below.toList.filter fun other =>
        !({} : Config).excludedDirectories.contains other.fileName
      let nodes ← entered.mapM fun other => do
        return (other.fileName, ← load other)
      return .folder nodes
  | .symlink => return .link (Path.ofText (← IO.FS.realPath entry.path).toString)
  | .file => return .file (← IO.FS.readBinFile entry.path)
  | .other => return .file .empty

/-- Loads the file or folder that a word names, if there is one. -/
def loadWord (tree : FileTree) (word : String) : IO FileTree := do
  try
    let place ← IO.FS.realPath word
    let node ← load { root := place, fileName := "." }
    return tree.insert (Path.ofText place.toString) node
  catch _ => return tree

/-- Runs the program with its words. -/
def run (words : List String) : IO UInt32 := do
  let home := Path.ofText (← IO.currentDir).toString
  let named ← words.foldlM loadWord (FileTree.empty home.names)
  let tree ←
    if words.any fun word => named.exists? (Path.ofText word) then pure named
    else loadWord named "."
  let around : Surroundings :=
    { tree := tree, environment := ← readEnvironment, columns := ← readColumns
      servesTools := false }
  let begun ← IO.monoMsNow
  let outcome := CommandLine.run around words
  let exit := outcome.exit.toUInt32
  IO.eprint outcome.errors
  let elapsed := Number.fixed 3 (.float (.ofRatio false ((← IO.monoMsNow) - begun) 1000))
  IO.print (outcome.output elapsed)
  return exit

end Program

end Lookalike

/-- The command line. -/
def main (words : List String) : IO UInt32 := Lookalike.Program.run words
