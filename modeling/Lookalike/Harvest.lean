import Lookalike.Files.Tree
import Lookalike.Harvest.Error
import Lookalike.Harvest.Walk
import Lookalike.Source.Statement
import Lookalike.Text.Utf8

/-!
# Harvesting the names of a source

A harvester has a source text parsed and walks its syntax tree.  It keeps the walk of its
last source, complete or not, and begins every source afresh.

The parser and the room for the calls of a walk are given by the system that a harvester runs in.
Sources are harvested in the standard one.
-/

namespace Lookalike

open Source

/-! ### Parsing -/

/-- How many levels a syntax tree can have at all. -/
def builtLevels : Nat := 2950

/-- Parses a source text into its statements. -/
def parseSource (letters : List Char) : Except ParseFault (List Tree) :=
  if letters.contains '\x00' then .error .nullCharacter
  else
    match readSource letters with
    | .error .malformed => .error .malformed
    | .error .exhausted => .error .tooLong
    | .ok statements =>
        if statements.any (Tree.isDeeperThan builtLevels) then .error .tooDeep
        else .ok statements

/-- What a harvester is given: a parser, and room for calls inside of calls when a walk
begins, less a few that are kept back for what is done at a tree. -/
structure Runtime where
  parse : List Char → Except ParseFault (List Tree)
  room : Nat

/-- The parser of the language, and what is left of a thousand calls when a walk begins. -/
def Runtime.standard : Runtime := { parse := parseSource, room := 980 }

/-! ### Harvesting -/

/-- The path of a source that comes from no file. -/
def unnamedSource : String := "<string>"

/-- What the outermost scope of a source is called. -/
def moduleName (filePath : String) : String :=
  if filePath = unnamedSource then "<module>" else (Path.ofText filePath).stem

/-- What came of a source: its scopes, inner ones first, or an error.  A source that is
no program has no scopes, which is reported as a problem. -/
structure Harvest where
  outcome : Except HarvestError (List HarvestedScope)
  problems : List Problem := []

/-- The system's report on a file that cannot be read. -/
def FileFault.report (fault : FileFault) (path : Path) : String :=
  "[Errno " ++ toString fault.number ++ "] " ++ fault.words ++ ": " ++ quoted path.text

/-- The text of the file at the end of a path, or why it cannot be read. -/
def readText (tree : FileTree) (path : Path) : Except String (List Char) :=
  match tree.read path with
  | .error fault => .error (fault.report path)
  | .ok content => (decodeText content.data.toList).mapError DecodingError.message

/-- A harvester and the walk through its last source. -/
structure Harvester where
  last : Walk

namespace Harvester

/-- A harvester that has seen no source. -/
def new (propagates : Bool) : Harvester :=
  { last := { propagates := propagates, filePath := unnamedSource } }

/-- Walks the statements of a source with room for a number of calls inside of calls. -/
def walkModule (room : Nat) (propagates : Bool) (filePath : String) (statements : List Tree) :
    Except Walk Walk :=
  visitScope .module (moduleName filePath) 1 {} (visitAll (visit room) statements)
    { propagates := propagates, filePath := filePath }

/-- Harvests a source text with what a harvester is given. -/
def harvestIn (runtime : Runtime) (harvester : Harvester) (source filePath : String) :
    Harvest × Harvester :=
  match runtime.parse source.toList with
  | .error fault =>
      match fault.error? filePath with
      | none =>
          ({ outcome := .ok []
             problems := [⟨.error, "Syntax error in " ++ filePath⟩] }, harvester)
      | some error => ({ outcome := .error error }, harvester)
  | .ok statements =>
      match walkModule runtime.room harvester.last.propagates filePath statements with
      | .ok walk => ({ outcome := .ok walk.completed.reverse }, ⟨walk⟩)
      | .error walk => ({ outcome := .error (.tooDeepToWalk filePath) }, ⟨walk⟩)

/-- Harvests a source text. -/
def harvest (harvester : Harvester) (source filePath : String) : Harvest × Harvester :=
  harvester.harvestIn .standard source filePath

/-- Harvests the file at the end of a path. -/
def harvestFile (harvester : Harvester) (tree : FileTree) (path : Path) : Harvest × Harvester :=
  match readText tree path with
  | .ok letters => harvester.harvest (String.ofList letters) path.text
  | .error reason => ({ outcome := .error (.unreadable path.text reason) }, harvester)

end Harvester

/-- Harvests a source text with a new harvester that is given a parser and room. -/
def harvestSourceIn (runtime : Runtime) (propagates : Bool) (source filePath : String) : Harvest :=
  ((Harvester.new propagates).harvestIn runtime source filePath).1

/-- Harvests a source text with a new harvester. -/
def harvestSource (propagates : Bool) (source filePath : String) : Harvest :=
  harvestSourceIn .standard propagates source filePath

/-- Harvests the file at the end of a path with a new harvester. -/
def harvestFile (propagates : Bool) (tree : FileTree) (path : Path) : Harvest :=
  ((Harvester.new propagates).harvestFile tree path).1

end Lookalike
