import Lookalike.Text.CharacterName.List
import Lookalike.Text.CodePoints

/-!
# Names of characters

Every character but a few has a name.  Most names are listed; those of ideographs give
the code point, and those of Korean syllables spell the syllable out.
-/

namespace Lookalike

namespace CharacterName

/-! ### Listed names -/

/-- A search through a list of names. -/
structure Search where
  /-- How many letters the name before shares with the name that is looked for. -/
  shared : Nat := 0
  /-- Whether the name before is the name that is looked for. -/
  found : Bool := false
  deriving Inhabited

/-- The number of letters that two texts begin with alike. -/
def sharedLength (wanted rest : List Char) : Nat :=
  match wanted, rest with
  | letter :: wanted, other :: rest => if letter = other then sharedLength wanted rest + 1 else 0
  | _, _ => 0

/-- Goes on to the next name of a list, given the number of letters that it takes over
from the name before it and its further letters. -/
def Search.next (search : Search) (wanted : List Char) (kept : Nat) (rest : List Char) :
    Search :=
  if search.found || search.shared < kept then search
  else
    let further := wanted.drop kept
    { shared := kept + sharedLength further rest, found := further = rest }

/-- The value of a small letter in base twenty-six. -/
def letterValue (letter : Char) : Nat := letter.toNat - 'a'.toNat

/-- Searches the names of a line one after another; every two small letters begin a name. -/
def searchFrom (wanted : List Char) : Nat → Search → List Char → Search
  | steps + 1, search, first :: second :: letters =>
      let rest := letters.takeWhile fun letter => !letter.isLower
      searchFrom wanted steps
        (search.next wanted (26 * letterValue first + letterValue second) rest)
        (letters.drop rest.length)
  | _, search, _ => search

/-- Whether a name in capital letters is listed. -/
def isListed (wanted : List Char) : Bool :=
  match wanted with
  | [] => false
  | first :: _ =>
      ((listOf first).foldl (fun search line =>
        let letters := line.toList
        searchFrom wanted letters.length search letters) {}).found

/-! ### Names by rule -/

/-- What the names of unified ideographs begin with. -/
def ideographOpening : List Char := "CJK UNIFIED IDEOGRAPH-".toList

/-- The code points of the unified ideographs. -/
def ideographs : List (Nat × Nat) :=
  [(0x3400, 0x4DBF), (0x4E00, 0x9FFF), (0x20000, 0x2A6DF), (0x2A700, 0x2B738),
    (0x2B740, 0x2B81D), (0x2B820, 0x2CEA1), (0x2CEB0, 0x2EBE0), (0x30000, 0x3134A)]

/-- Whether digits are the code point of a unified ideograph. -/
def isIdeograph (digits : List Char) : Bool :=
  let point := readHex digits
  (digits.length == 4 || digits.length == 5) &&
    digits.all (fun digit => digit.isDigit || ('A' ≤ digit && digit ≤ 'F')) &&
    ideographs.any fun range => range.1 ≤ point && point ≤ range.2

/-- What the names of Korean syllables begin with. -/
def syllableOpening : List Char := "HANGUL SYLLABLE ".toList

/-- How the consonants that begin a Korean syllable are spelt. -/
def leadingConsonants : List String :=
  ["G", "GG", "N", "D", "DD", "R", "M", "B", "BB", "S", "SS", "", "J", "JJ", "C", "K", "T",
    "P", "H"]

/-- How the vowels of a Korean syllable are spelt. -/
def vowels : List String :=
  ["A", "AE", "YA", "YAE", "EO", "E", "YEO", "YE", "O", "WA", "WAE", "OE", "YO", "U", "WEO",
    "WE", "WI", "YU", "EU", "YI", "I"]

/-- How the consonants that end a Korean syllable are spelt. -/
def trailingConsonants : List String :=
  ["", "G", "GG", "GS", "N", "NJ", "NH", "D", "L", "LG", "LM", "LB", "LS", "LT", "LP", "LH",
    "M", "B", "BS", "S", "SS", "NG", "J", "C", "K", "T", "P", "H"]

/-- Takes the longest of several spellings off the beginning of a text. -/
def dropSpelling (spellings : List String) (letters : List Char) : Option (List Char) :=
  let fitting := spellings.filter fun spelling => spelling.toList.isPrefixOf letters
  match fitting with
  | [] => none
  | _ => some (letters.drop ((fitting.map String.length).foldl max 0))

/-- Whether letters spell a Korean syllable. -/
def isSyllable (letters : List Char) : Bool :=
  ((dropSpelling leadingConsonants letters).bind (dropSpelling vowels)).bind
    (dropSpelling trailingConsonants) == some []

end CharacterName

open CharacterName in
/-- Whether a text is the name of a character.  Small letters count as capital ones, but
not in the names that follow from a rule. -/
def isCharacterName (text : String) : Bool :=
  let letters := text.toList
  if syllableOpening.isPrefixOf letters then isSyllable (letters.drop syllableOpening.length)
  else if ideographOpening.isPrefixOf letters then
    isIdeograph (letters.drop ideographOpening.length)
  else isListed (letters.map Char.toUpper)

end Lookalike
