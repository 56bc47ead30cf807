import Lookalike.Text.Quoted
import Lookalike.Text.Resemblance

/-!
# Commands and wrong usage

What a command takes, and what is wrong with words that do not fit.
-/

namespace Lookalike

namespace CommandLine

/-- What an option is about. -/
inductive OptionKey where
  | version
  | threshold
  | nested
  | format
  | failOnMatch
  | progress
  | verbose
  | transport
  | help
  deriving DecidableEq, Inhabited

/-- An option: how it is written, and whether a value follows it. -/
structure OptionForm where
  key : OptionKey
  /-- The letter behind a single dash. -/
  short : Option Char := none
  /-- The name with its two dashes. -/
  long : String
  takesValue : Bool := false
  deriving Inhabited

/-- An option as error messages name it. -/
def OptionForm.hint (form : OptionForm) : String :=
  match form.short with
  | some letter => "'-" ++ String.singleton letter ++ "' / '" ++ form.long ++ "'"
  | none => "'" ++ form.long ++ "'"

/-- A command: how it is called and what it takes. -/
structure CommandForm where
  /-- The words that call the command. -/
  callWords : String
  /-- What can follow these words. -/
  synopsis : String
  options : List OptionForm
  /-- Whether options may follow other words. -/
  mixed : Bool := true
  deriving Inhabited

/-- What is wrong with the words of a command. -/
inductive UsageFault where
  | unknownOption (name : String) (close : List String)
  | valueMissing (name : String)
  | valueUnwanted (name : String)
  | wordsUnexpected (words : List String)
  | wordMissing (placeholder : String)
  | noNumber (hint value : String)
  | noChoice (hint value : String) (choices : List String)
  | pathMissing (hint path : String)
  | unknownCommand (name : String) (close : List String)
  | commandMissing
  deriving DecidableEq

/-- A suggestion of words that may have been meant. -/
def suggestion (close : List String) : String :=
  match close with
  | [] => ""
  | [word] => " Did you mean " ++ quoted word ++ "?"
  | words => " (Possible options: " ++ ", ".intercalate (words.map quoted) ++ ")"

namespace UsageFault

/-- What is said about wrong words. -/
def message : UsageFault → String
  | unknownOption name close => "No such option " ++ quoted name ++ "." ++ suggestion close
  | valueMissing name => "Option " ++ quoted name ++ " requires an argument."
  | valueUnwanted name => "Option " ++ quoted name ++ " does not take a value."
  | wordsUnexpected words =>
      "Got unexpected extra argument" ++ (if words.length = 1 then "" else "s") ++ " (" ++
        " ".intercalate words ++ ")"
  | wordMissing placeholder => "Missing argument '" ++ placeholder ++ "'."
  | noNumber hint value =>
      "Invalid value for " ++ hint ++ ": " ++ quoted value ++ " is not a valid float."
  | noChoice hint value choices =>
      "Invalid value for " ++ hint ++ ": " ++ quoted value ++ " is not one of " ++
        ", ".intercalate (choices.map quoted) ++ "."
  | pathMissing hint path =>
      "Invalid value for " ++ hint ++ ": Path " ++ quoted path ++ " does not exist."
  | unknownCommand name close => "No such command " ++ quoted name ++ "." ++ suggestion close
  | commandMissing => "Missing command."

/-- Whether the command's usage is shown before what is wrong.  It is not if an option's
value is what is wrong with it. -/
def showsUsage : UsageFault → Bool
  | valueMissing _ => false
  | valueUnwanted _ => false
  | _ => true

/-- What is shown for wrong words. -/
def report (fault : UsageFault) (command : CommandForm) : String :=
  (if fault.showsUsage then
    "Usage: " ++ command.callWords ++ " " ++ command.synopsis ++ "\nTry '" ++
      command.callWords ++ " --help' for help.\n\n"
  else "") ++ "Error: " ++ fault.message ++ "\n"

end UsageFault

end CommandLine

end Lookalike
