import Lookalike.Number.Numeral
import Lookalike.Text.Quoted

/-!
# The words of the demonstration

The demonstration takes a path and a threshold.  Its options may be cut short as long as
it is clear which one is meant; words that look like negative numbers or hold a blank are
no options.
-/

namespace Lookalike

namespace Demonstration

/-- The options of the demonstration. -/
inductive OptionKey where
  | help
  | threshold
  deriving DecidableEq, Inhabited

/-- An option as error messages name it. -/
def OptionKey.title : OptionKey → String
  | help => "-h/--help"
  | threshold => "--threshold"

/-- How the options are written. -/
def spellings : List (String × OptionKey) :=
  [("-h", .help), ("--help", .help), ("--threshold", .threshold)]

/-- What is wrong with the words. -/
inductive Fault where
  | ambiguous (word : String) (matching : List String)
  | valueMissing
  | noNumber (value : String)
  | valueUnwanted (value : String)
  | unrecognized (words : List String)
  deriving DecidableEq

/-- What is said about wrong words. -/
def Fault.message : Fault → String
  | ambiguous word matching =>
      "ambiguous option: " ++ word ++ " could match " ++ ", ".intercalate matching
  | valueMissing => "argument " ++ OptionKey.threshold.title ++ ": expected one argument"
  | noNumber value =>
      "argument " ++ OptionKey.threshold.title ++ ": invalid float value: " ++ quoted value
  | valueUnwanted value =>
      "argument " ++ OptionKey.help.title ++ ": ignored explicit argument " ++ quoted value
  | unrecognized words => "unrecognized arguments: " ++ " ".intercalate words

/-- What a word is taken for. -/
inductive Word where
  | plain (text : String)
  /-- The first word that is nothing but two dashes. -/
  | separator
  /-- An option, how it is spelt in full, and the value behind an equals sign. -/
  | option (key : OptionKey) (attached : Option String)
  /-- The short option for help with letters behind it. -/
  | cluster (letters : List Char)
  | unknown (text : String)
  deriving DecidableEq, Inhabited

/-- Whether a text looks like a negative number. -/
def isNegativeNumber (text : List Char) : Bool :=
  let body := if text.getLast? = some '\n' then text.dropLast else text
  match body with
  | '-' :: digits =>
      let whole := digits.takeWhile fun letter => (decimalDigit? letter).isSome
      match digits.drop whole.length with
      | [] => !whole.isEmpty
      | '.' :: decimals =>
          !decimals.isEmpty && decimals.all fun letter => (decimalDigit? letter).isSome
      | _ => false
  | _ => false

/-- Splits a word at its first equals sign. -/
def splitAttached (word : List Char) : List Char × Option String :=
  match word.dropWhile (· ≠ '=') with
  | [] => (word, none)
  | _ :: value => (word.takeWhile (· ≠ '='), some (String.ofList value))

/-- What a word with a dash is taken for that spells no option out. -/
def classifyOther (word : List Char) : Word :=
  if isNegativeNumber word || word.contains ' ' then .plain (String.ofList word)
  else .unknown (String.ofList word)

/-- Takes a word for one of several things. -/
def classify (text : String) : Except Fault Word :=
  let word := text.toList
  let (name, attached) := splitAttached word
  match word with
  | [] => .ok (.plain text)
  | ['-'] => .ok (.plain text)
  | '-' :: _ =>
      match spellings.find? (·.1 == text), spellings.find? (·.1 == String.ofList name) with
      | some (_, key), _ => .ok (.option key none)
      | none, some (_, key) => .ok (.option key attached)
      | none, none =>
          match word with
          | '-' :: '-' :: _ =>
              match spellings.filter fun entry => name.isPrefixOf entry.1.toList with
              | [] => .ok (classifyOther word)
              | [(_, key)] => .ok (.option key attached)
              | several => .error (.ambiguous text (several.map (·.1)))
          | '-' :: 'h' :: letters => .ok (.cluster letters)
          | _ => .ok (classifyOther word)
  | _ => .ok (.plain text)

/-- Takes words for what they are.  Behind two dashes all words are plain. -/
def classifyAll : List String → Except Fault (List Word)
  | [] => .ok []
  | text :: texts =>
      if text = "--" then .ok (.separator :: texts.map .plain)
      else do
        let word ← classify text
        return word :: (← classifyAll texts)

/-- What has been read of the words of the demonstration. -/
structure ReadWords where
  asksHelp : Bool := false
  threshold : Option Binary64 := none
  path : Option String := none
  /-- Whether the next word has to be the threshold's value. -/
  awaitsValue : Bool := false
  /-- Whether the path was the last word. -/
  atPath : Bool := false
  /-- The words that are too many, last one first. -/
  extra : List String := []
  deriving Inhabited

namespace ReadWords

/-- Takes in the value of the threshold. -/
def takeThreshold (read : ReadWords) (value : String) : Except Fault ReadWords :=
  match readFloat? value with
  | some number => .ok { read with threshold := some number, awaitsValue := false }
  | none => .error (.noNumber value)

/-- Takes in a word that is too many. -/
def takeExtra (read : ReadWords) (text : String) : ReadWords :=
  { read with extra := text :: read.extra }

/-- Takes in a plain word: the first one is the path. -/
def takePlain (read : ReadWords) (text : String) : ReadWords :=
  match read.path with
  | none => { read with path := some text, atPath := true }
  | some _ => read.takeExtra text

/-- Takes in two dashes.  They belong to the path if they stand next to it. -/
def takeSeparator (read : ReadWords) (nextToPath : Bool) : ReadWords :=
  if read.path.isNone || nextToPath then read else read.takeExtra "--"

/-- Takes in the letters behind the short option for help. -/
def takeCluster (read : ReadWords) : List Char → Except Fault ReadWords
  | [] => .ok { read with asksHelp := true }
  | 'h' :: '=' :: value => .error (.valueUnwanted (String.ofList value))
  | 'h' :: letters => takeCluster read letters
  | '-' :: letters => .error (.valueUnwanted (String.ofList ('-' :: letters)))
  | letters => .ok ({ read with asksHelp := true }.takeExtra (String.ofList ('-' :: letters)))

/-- Takes in one word. -/
def take (read : ReadWords) (word : Word) : Except Fault ReadWords :=
  let next := { read with atPath := false }
  if read.awaitsValue then
    match word with
    | .plain value => next.takeThreshold value
    | _ => .error .valueMissing
  else
    match word with
    | .option .help (some value) => .error (.valueUnwanted value)
    | .option .help none => .ok { next with asksHelp := true }
    | .option .threshold (some value) => next.takeThreshold value
    | .option .threshold none => .ok { next with awaitsValue := true }
    | .cluster letters => next.takeCluster letters
    | .unknown text => .ok (next.takeExtra text)
    | .plain text => .ok (next.takePlain text)
    | .separator => .ok (next.takeSeparator read.atPath)

end ReadWords

/-- Takes in words one after another until help is asked for. -/
def readFrom (read : ReadWords) : List Word → Except Fault ReadWords
  | [] => if read.awaitsValue then .error .valueMissing else .ok read
  | word :: words => do
      let next ← read.take word
      if next.asksHelp then return next else readFrom next words

/-- Reads the words of the demonstration. -/
def readWords (texts : List String) : Except Fault ReadWords := do
  let read ← readFrom {} (← classifyAll texts)
  if read.asksHelp || read.extra.isEmpty then return read
  else throw (.unrecognized read.extra.reverse)

end Demonstration

end Lookalike
