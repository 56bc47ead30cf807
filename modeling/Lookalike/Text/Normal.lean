import Lookalike.Text.Normal.Decomposition
import Lookalike.Text.Normal.Composition

/-!
# Compatibility normal form

`compatibilityNormal` is Unicode's normal form KC: decompose, put the marks that
follow a base character into the order of their combining classes, compose again.
Two spellings of an identifier that differ only in form become the same name.
-/

namespace Lookalike

/-! ### Hangul syllables -/

/-- The first Hangul syllable. -/
def syllableBase : Nat := 0xAC00

/-- The code point before which leading consonants begin, and the two others. -/
def leadBase : Nat := 0x1100
def vowelBase : Nat := 0x1161
def tailBase : Nat := 0x11A7

/-- Decomposes a Hangul syllable by arithmetic. -/
def decomposeSyllable (point : Nat) : List Char :=
  let index := point - syllableBase
  let lead := Char.ofNat (leadBase + index / 588)
  let vowel := Char.ofNat (vowelBase + index % 588 / 28)
  if index % 28 = 0 then [lead, vowel]
  else [lead, vowel, Char.ofNat (tailBase + index % 28)]

/-- Composes two Hangul letters, or a syllable without a tail and a tail. -/
def composeSyllable? (first second : Nat) : Option Nat :=
  if leadBase ≤ first ∧ first < leadBase + 19 ∧ vowelBase ≤ second ∧ second < vowelBase + 21 then
    some (syllableBase + ((first - leadBase) * 21 + (second - vowelBase)) * 28)
  else if syllableBase ≤ first ∧ first < syllableBase + 11172 ∧
      (first - syllableBase) % 28 = 0 ∧ tailBase < second ∧ second < tailBase + 28 then
    some (first + (second - tailBase))
  else none

/-! ### The three steps -/

/-- The full compatibility decomposition of a character. -/
def decompose (letter : Char) : List Char :=
  if letter.toNat < 128 then [letter]
  else if syllableBase ≤ letter.toNat ∧ letter.toNat < syllableBase + 11172 then
    decomposeSyllable letter.toNat
  else (compatibilityForms.find? letter.toNat).getD [letter]

/-- The canonical combining class of a character. -/
def combiningClass (letter : Char) : Nat :=
  if letter.toNat < 0x300 then 0 else combiningClasses.get letter.toNat

/-- Inserts a mark behind all marks whose class is not greater; `marks` come last first. -/
def insertMark (mark : Char) : List Char → List Char
  | [] => [mark]
  | last :: marks =>
      if combiningClass mark < combiningClass last then last :: insertMark mark marks
      else mark :: last :: marks

/-- Orders the marks after each base character by class, keeping the order within a
class.  `marks` holds the marks since the last base character, last first. -/
def orderMarks (marks : List Char) : List Char → List Char
  | [] => marks.reverse
  | letter :: rest =>
      if combiningClass letter = 0 then marks.reverse ++ letter :: orderMarks [] rest
      else orderMarks (insertMark letter marks) rest

/-- The character that two characters make together. -/
def composePair? (first second : Char) : Option Char :=
  match composeSyllable? first.toNat second.toNat with
  | some point => some (Char.ofNat point)
  | none =>
      match composedForms.find? (first.toNat * 0x110000 + second.toNat) with
      | some [letter] => some letter
      | _ => none

/-- Composes what follows a base character.  `skipped` are the marks left in place so
far, last first; a mark is blocked when one of its class or higher was left before it. -/
def composeFrom (base : Char) (skipped : List Char) : List Char → List Char
  | [] => base :: skipped.reverse
  | letter :: rest =>
      let blocked :=
        match skipped with
        | [] => false
        | last :: _ => combiningClass letter ≤ combiningClass last
      match (if blocked then none else composePair? base letter) with
      | some composed => composeFrom composed skipped rest
      | none =>
          if combiningClass letter = 0 then
            base :: skipped.reverse ++ composeFrom letter [] rest
          else composeFrom base (letter :: skipped) rest

/-- Composes a decomposed text. -/
def compose : List Char → List Char
  | [] => []
  | letter :: rest =>
      if combiningClass letter = 0 then composeFrom letter [] rest
      else letter :: compose rest

/-- The compatibility normal form of a text. -/
def compatibilityNormal (letters : List Char) : List Char :=
  if letters.all (·.toNat < 128) then letters
  else compose (orderMarks [] (letters.flatMap decompose))

end Lookalike
