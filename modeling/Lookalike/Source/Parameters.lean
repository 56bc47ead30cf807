import Lookalike.Source.Stream

/-!
# Parameter lists

Parameters stand in a fixed order: those before a slash take only positions, those
behind a star only keywords, and a double star ends the list.  Up to the star no
parameter without a default value follows one that has a default value.
-/

namespace Lookalike.Source

/-- Which parameters may still follow. -/
inductive ParameterStage where
  /-- Any parameter. -/
  | positions
  /-- Parameters behind a star; one is still `missing` if the star stands alone. -/
  | keywords (missing : Bool)
  | complete
  deriving DecidableEq

/-- A parameter list that is being read; all lists are reversed. -/
structure ParameterList where
  stage : ParameterStage := .positions
  positionalOnly : List Parameter := []
  positional : List Parameter := []
  keywordOnly : List Parameter := []
  variadic : Option Parameter := none
  keywords : Option Parameter := none
  defaults : List Tree := []
  keywordDefaults : List Tree := []
  annotations : List Tree := []

namespace ParameterList

/-- The parameters of a list. -/
def parameters (list : ParameterList) : Parameters :=
  { positionalOnly := list.positionalOnly.reverse
    positional := list.positional.reverse
    keywordOnly := list.keywordOnly.reverse
    variadic := list.variadic
    keywords := list.keywords }

/-- All default values, those of positions first. -/
def allDefaults (list : ParameterList) : List Tree :=
  list.defaults.reverse ++ list.keywordDefaults.reverse

/-- Adds a parameter that is written with or without a default value. -/
def add? (list : ParameterList) (parameter : Parameter) (default? : Option Tree) :
    Option ParameterList :=
  match list.stage, default? with
  | .positions, none =>
      if list.defaults.isEmpty then
        some { list with positional := parameter :: list.positional }
      else none
  | .positions, some value =>
      some
        { list with positional := parameter :: list.positional, defaults := value :: list.defaults }
  | .keywords _, default? =>
      some
        { list with
          stage := .keywords false
          keywordOnly := parameter :: list.keywordOnly
          keywordDefaults := default?.toList ++ list.keywordDefaults }
  | .complete, _ => none

/-- Ends the parameters that take only positions. -/
def slash? (list : ParameterList) : Option ParameterList :=
  if list.stage = .positions ∧ list.positionalOnly.isEmpty ∧ !list.positional.isEmpty then
    some { list with positionalOnly := list.positional, positional := [] }
  else none

/-- Whether a list may end. -/
def mayEnd (list : ParameterList) : Bool := list.stage ≠ .keywords true

end ParameterList

open Reader

/-- How annotations are read where they are allowed: that of a parameter, and that of
the parameter behind a star. -/
structure AnnotationReader where
  single : Reader Tree
  starred : Reader Tree

/-- Reads the name of a parameter and its annotation. -/
def readParameter (annotation? : Option (Reader Tree)) :
    Reader (Parameter × List Tree) := do
  let (name, position) ← takeName
  let parameter : Parameter := ⟨name, position⟩
  match annotation? with
  | none => return (parameter, [])
  | some annotation =>
      if ← accept ":" then return (parameter, [← annotation]) else return (parameter, [])

/-- Reads what follows a star: the parameter that takes all further positions, or
nothing, so that a keyword parameter must follow. -/
def readVariadic (annotation? : Option AnnotationReader) (list : ParameterList) :
    Reader ParameterList := do
  check (list.stage = .positions)
  if ← nextIs "," then
    return { list with stage := .keywords true }
  let (parameter, annotations) ← readParameter (annotation?.map (·.starred))
  return { list with
    stage := .keywords false
    variadic := some parameter
    annotations := annotations ++ list.annotations }

/-- Reads the parameter that takes all further keywords, behind its double star. -/
def readKeywords (annotation? : Option AnnotationReader) (list : ParameterList) :
    Reader ParameterList := do
  check (list.stage ≠ .complete ∧ list.mayEnd)
  let (parameter, annotations) ← readParameter (annotation?.map (·.single))
  return { list with
    stage := .complete
    keywords := some parameter
    annotations := annotations ++ list.annotations }

/-- Reads a parameter that stands for itself, and its default value. -/
def readPlainParameter (expression : Reader Tree) (annotation? : Option AnnotationReader)
    (list : ParameterList) : Reader ParameterList := do
  let (parameter, annotations) ← readParameter (annotation?.map (·.single))
  let default? ← if ← accept "=" then some <$> expression else pure none
  let list ← require (list.add? parameter default?)
  return { list with annotations := annotations ++ list.annotations }

/-- Reads one entry of a parameter list. -/
def readParameterEntry (expression : Reader Tree) (annotation? : Option AnnotationReader)
    (list : ParameterList) : Reader ParameterList := do
  if ← accept "/" then require list.slash?
  else if ← accept "*" then readVariadic annotation? list
  else if ← accept "**" then readKeywords annotation? list
  else readPlainParameter expression annotation? list

/-- Reads a parameter list up to the mark that closes it.  A comma may stand behind the
last parameter. -/
def readParameters (expression : Reader Tree) (annotation? : Option AnnotationReader)
    (closing : String) : Reader ParameterList := do
  if ← nextIs closing then
    return {}
  let first ← readParameterEntry expression annotation? {}
  let list ← iterate (fun list => do
    if (← nextIs ",") && !(← secondIs closing) then
      let _ ← take
      return some (← readParameterEntry expression annotation? list)
    else return none) first
  let _ ← accept ","
  check list.mayEnd
  return list

end Lookalike.Source
