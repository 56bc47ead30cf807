/-!
# Control sequences

Terminals take some sequences of characters as orders, such as to change the colour: the
escape character, an opening bracket, digits and separators, and a letter.  They have no
place in text that is not shown on a terminal.
-/

namespace Lookalike

/-- Whether a character may stand between the bracket of a control sequence and its last
letter. -/
def isSequenceParameter (letter : Char) : Bool :=
  letter = ';' || letter = '?' || letter.isDigit

/-- The length of the control sequence that a text begins with, or zero. -/
def sequenceLength : List Char → Nat
  | '\x1b' :: '[' :: rest =>
      let parameters := rest.takeWhile isSequenceParameter
      match rest.drop parameters.length with
      | last :: _ => if last.isAlpha then parameters.length + 3 else 0
      | [] => 0
  | _ => 0

/-- The characters of a text that belong to no control sequence, once the first `pass`
characters are left out. -/
def plainLetters : (pass : Nat) → List Char → List Char
  | _, [] => []
  | pass + 1, _ :: rest => plainLetters pass rest
  | 0, letter :: rest =>
      match sequenceLength (letter :: rest) with
      | 0 => letter :: plainLetters 0 rest
      | length + 1 => plainLetters length rest

/-- A text without its control sequences. -/
def withoutControlSequences (text : String) : String :=
  String.ofList (plainLetters 0 text.toList)

end Lookalike
