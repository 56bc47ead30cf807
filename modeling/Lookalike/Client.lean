import Lookalike.Check

/-!
# Clients

A client holds valid settings and offers everything that can be done with them:
comparing two texts, matching a list of names, and checking files.
-/

namespace Lookalike

/-- A client with its settings and the threshold that they give. -/
structure Client where
  config : Config
  threshold : Threshold

namespace Client

/-- A client with explicit settings. -/
def new (config : Config) : Except ConfigError Client := do
  let threshold ← config.validate
  return { config := config, threshold := threshold }

/-- A client with the settings of the environment, some of them replaced. -/
def ofEnvironment (environment : Environment) (overrides : List (String × Json)) :
    Except ConfigError Client := do
  new (← (← Config.ofEnvironment environment).setAll overrides)

/-- Compares two texts. -/
def compare (client : Client) (first second : String) : Comparison :=
  compareTexts first second client.threshold

/-- Matches the names of a list. -/
def matchNames (client : Client) (names : List Name) : Except MatchError Matching :=
  matchCollection client.threshold { names := names }

/-- The absolute path that a path leads to, unless links lead back to themselves on the
way. -/
def locate (tree : FileTree) (path : Path) : Except CheckError Path :=
  let resolved := tree.resolve path
  match tree.find resolved with
  | .error .tooManyLinks => .error (.linkLoop resolved)
  | _ => .ok resolved

/-- Checks files and folders, given by the absolute paths that they lead to; the working
directory if none are given. -/
def check (client : Client) (tree : FileTree) (paths : List Path) :
    Except CheckError Finished := do
  let targets ← (if paths.isEmpty then [{}] else paths).mapM (locate tree)
  let check ← Check.prepare tree client.config targets
  check.run tree []

/-- A small status report on the client's settings. -/
def health (client : Client) : Json := client.config.health

end Client

end Lookalike
