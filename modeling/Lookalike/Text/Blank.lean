/-!
# Blank characters

The characters that count as white space around a text: the separators of all
scripts and the control characters that separate lines and fields.
-/

namespace Lookalike

/-- Whether a character is white space. -/
def isBlank (letter : Char) : Bool :=
  let point := letter.toNat
  (0x09 ≤ point && point ≤ 0x0D) || (0x1C ≤ point && point ≤ 0x20) || point == 0x85 ||
    point == 0xA0 || point == 0x1680 || (0x2000 ≤ point && point ≤ 0x200A) ||
    point == 0x2028 || point == 0x2029 || point == 0x202F || point == 0x205F ||
    point == 0x3000

/-- Drops what satisfies a test at both ends. -/
def trimBoth (drop : Char → Bool) (letters : List Char) : List Char :=
  ((letters.dropWhile drop).reverse.dropWhile drop).reverse

/-- A text without the white space around it. -/
def strip (text : String) : String :=
  String.ofList (trimBoth isBlank text.toList)

end Lookalike
