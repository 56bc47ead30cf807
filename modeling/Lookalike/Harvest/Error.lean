/-!
# Why a source is not harvested
-/

namespace Lookalike

/-- Why a source text is not parsed. -/
inductive ParseFault where
  /-- The text is no program. -/
  | malformed
  /-- The text holds a null character. -/
  | nullCharacter
  /-- The syntax tree has too many levels to be built. -/
  | tooDeep
  /-- The text has too many operators in a row to be read. -/
  | tooLong
  deriving DecidableEq

/-- Why a source text is not harvested. -/
inductive HarvestError where
  /-- The file cannot be read, for a reason that the system gives. -/
  | unreadable (filePath reason : String)
  /-- The text holds a null character. -/
  | nullCharacter (filePath : String)
  /-- The syntax tree has too many levels to be built. -/
  | tooDeepToBuild (filePath : String)
  /-- The text has too many operators in a row to be read. -/
  | tooLongToRead (filePath : String)
  /-- There is not enough room for the calls that walk the syntax tree. -/
  | tooDeepToWalk (filePath : String)
  deriving DecidableEq, Inhabited

/-- The error that a fault of parsing leads to.  That a text is no program is none. -/
def ParseFault.error? (filePath : String) : ParseFault → Option HarvestError
  | malformed => none
  | nullCharacter => some (.nullCharacter filePath)
  | tooDeep => some (.tooDeepToBuild filePath)
  | tooLong => some (.tooLongToRead filePath)

/-- What is said about a source text that is not harvested. -/
def HarvestError.message : HarvestError → String
  | unreadable filePath reason => "Cannot read " ++ filePath ++ ": " ++ reason
  | nullCharacter filePath =>
      "Cannot parse " ++ filePath ++
        ": ValueError('source code string cannot contain null bytes')"
  | tooDeepToBuild filePath => "Cannot parse " ++ filePath ++ ": RecursionError"
  | tooLongToRead filePath => "Cannot parse " ++ filePath ++ ": MemoryError"
  | tooDeepToWalk filePath => "Cannot walk " ++ filePath ++ ": RecursionError"

/-- How severe a problem is that does not stop the work. -/
inductive Severity where
  | warning
  | error
  deriving DecidableEq, Inhabited

/-- What a severity is called. -/
def Severity.word : Severity → String
  | warning => "WARNING"
  | error => "ERROR"

/-- A problem that is reported while the work goes on. -/
structure Problem where
  severity : Severity
  message : String
  deriving DecidableEq, Inhabited

end Lookalike
