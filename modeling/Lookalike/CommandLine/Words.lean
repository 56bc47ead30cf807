import Lookalike.CommandLine.Usage

/-!
# Reading the words of a command

Words that begin with a dash are options.  A long option's value follows an equals sign
or is the next word; letters behind a single dash are short options, of which the first
one with a value takes all that is left of the word.  Two dashes alone end the options.
-/

namespace Lookalike

namespace CommandLine

/-- The words of a command: its options with their values in order, and the other words. -/
structure ReadWords where
  given : List (OptionKey × String) := []
  words : List String := []
  deriving Inhabited

namespace ReadWords

/-- Whether an option is given. -/
def has (read : ReadWords) (key : OptionKey) : Bool :=
  read.given.any (·.1 == key)

/-- The last value that an option is given. -/
def value? (read : ReadWords) (key : OptionKey) : Option String :=
  (read.given.reverse.find? (·.1 == key)).map (·.2)

/-- The options that are given, each once, in the order of their first mention. -/
def keys (read : ReadWords) : List OptionKey :=
  (read.given.map (·.1)).eraseDups

end ReadWords

/-- What one word gives: options, and an option whose value is the next word. -/
structure WordReading where
  given : List (OptionKey × String) := []
  /-- The option that waits for its value, and how it was written. -/
  waiting : Option (OptionKey × String) := none
  deriving Inhabited

/-- Reads a long option. -/
def readLong (command : CommandForm) (name : String) (attached : Option String) :
    Except UsageFault WordReading :=
  match command.options.find? (·.long == name) with
  | none => .error (.unknownOption name (closeWords name (command.options.map (·.long))))
  | some form =>
      match form.takesValue, attached with
      | true, some value => .ok { given := [(form.key, value)] }
      | true, none => .ok { waiting := some (form.key, name) }
      | false, none => .ok { given := [(form.key, "")] }
      | false, some _ => .error (.valueUnwanted name)

/-- Reads the letters of short options. -/
def readShort (command : CommandForm) : List Char → Except UsageFault WordReading
  | [] => .ok {}
  | letter :: letters =>
      let name := String.ofList ['-', letter]
      match command.options.find? (·.short == some letter) with
      | none => .error (.unknownOption name [])
      | some form =>
          if form.takesValue then
            if letters.isEmpty then .ok { waiting := some (form.key, name) }
            else .ok { given := [(form.key, String.ofList letters)] }
          else do
            let further ← readShort command letters
            return { further with given := (form.key, "") :: further.given }

/-- Splits a word at its first equals sign. -/
def splitAttached (word : List Char) : String × Option String :=
  match word.dropWhile (· ≠ '=') with
  | [] => (String.ofList word, none)
  | _ :: value => (String.ofList (word.takeWhile (· ≠ '=')), some (String.ofList value))

/-- Reads a word that begins with a dash. -/
def readOption (command : CommandForm) (word : List Char) : Except UsageFault WordReading :=
  match word with
  | '-' :: '-' :: _ => readLong command (splitAttached word).1 (splitAttached word).2
  | _ => readShort command (word.drop 1)

/-- Whether a word is one or more options. -/
def isOptionWord (word : List Char) : Bool :=
  match word with
  | '-' :: _ :: _ => true
  | _ => false

/-- Reads words one after another.  What has been read comes last first. -/
def readFrom (command : CommandForm) (waiting : Option (OptionKey × String))
    (given : List (OptionKey × String)) (others : List String) :
    List String → Except UsageFault ReadWords
  | [] =>
      match waiting with
      | some (_, name) => .error (.valueMissing name)
      | none => .ok { given := given.reverse, words := others.reverse }
  | word :: rest =>
      match waiting with
      | some (key, _) => readFrom command none ((key, word) :: given) others rest
      | none =>
          if word = "--" then
            .ok { given := given.reverse, words := others.reverse ++ rest }
          else if isOptionWord word.toList then
            match readOption command word.toList with
            | .error fault => .error fault
            | .ok reading =>
                readFrom command reading.waiting (reading.given.reverse ++ given) others rest
          else if command.mixed then readFrom command none given (word :: others) rest
          else .ok { given := given.reverse, words := others.reverse ++ word :: rest }

/-- Reads the words of a command. -/
def readWords (command : CommandForm) (words : List String) : Except UsageFault ReadWords :=
  readFrom command none [] [] words

end CommandLine

end Lookalike
