/-!
# Resemblance of words

How much two words resemble each other: the longest stretch that they share is taken out
of both, and the same is done with what stands before and behind it.  The resemblance is
the share of the letters that are taken out.  It is used to suggest a word for a
misspelt one.
-/

namespace Lookalike

/-- A stretch that two words share: where it begins in each, and its length. -/
structure SharedStretch where
  first : Nat
  second : Nat
  length : Nat
  deriving Inhabited

/-- The number of letters that two words begin with alike. -/
def sharedStart : List Char → List Char → Nat
  | letter :: letters, other :: others =>
      if letter = other then sharedStart letters others + 1 else 0
  | _, _ => 0

/-- The longer of two stretches; of two equally long ones the earlier. -/
def longerStretch (earlier later : SharedStretch) : SharedStretch :=
  if earlier.length < later.length then later else earlier

/-- The longest stretch that two words share, the one that comes first in the first word,
and then in the second. -/
def longestStretch (word other : List Char) : SharedStretch :=
  let starts := (List.range word.length).flatMap fun first =>
    (List.range other.length).map fun second =>
      (⟨first, second, sharedStart (word.drop first) (other.drop second)⟩ : SharedStretch)
  starts.foldl longerStretch ⟨0, 0, 0⟩

/-- The number of letters that stretches shared by two words cover, with a bound on the
number of steps. -/
def sharedLetters : Nat → List Char → List Char → Nat
  | 0, _, _ => 0
  | steps + 1, word, other =>
      let stretch := longestStretch word other
      if stretch.length = 0 then 0
      else
        stretch.length +
          sharedLetters steps (word.take stretch.first) (other.take stretch.second) +
          sharedLetters steps (word.drop (stretch.first + stretch.length))
            (other.drop (stretch.second + stretch.length))

/-- The resemblance of two words, between zero and one. -/
def resemblance (word other : String) : Rat :=
  mkRat (2 * sharedLetters word.length word.toList other.toList) (word.length + other.length)

/-- The words that resemble a given one closely, at most three, in alphabetical order. -/
def closeWords (word : String) (known : List String) : List String :=
  let close := (known.map fun other => (resemblance other word, other)).filter fun entry =>
    3 / 5 ≤ entry.1
  let best := close.mergeSort fun left right =>
    right.1 < left.1 || (left.1 == right.1 && right.2 ≤ left.2)
  ((best.take 3).map (·.2)).mergeSort fun left right => left ≤ right

end Lookalike
