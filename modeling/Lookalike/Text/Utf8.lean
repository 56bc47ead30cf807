/-!
# Reading UTF-8

Bytes are read one at a time.  A first byte says which bytes have to follow, and a byte
outside of its range ends the reading: the bytes of the character that came before it
are reported.
-/

namespace Lookalike

/-- What is wrong with bytes that are no text. -/
inductive DecodingFault where
  | startByte
  | continuationByte
  | endOfData
  deriving DecidableEq, Inhabited

/-- What is said about bytes that are no text. -/
def DecodingFault.reason : DecodingFault → String
  | startByte => "invalid start byte"
  | continuationByte => "invalid continuation byte"
  | endOfData => "unexpected end of data"

/-- Bytes that are no text: where they begin, how many they are, and the first one. -/
structure DecodingError where
  position : Nat
  count : Nat
  first : UInt8
  fault : DecodingFault
  deriving DecidableEq, Inhabited

/-- A byte in two hexadecimal digits. -/
def byteDigits (byte : UInt8) : String :=
  let digit (value : Nat) : Char := (Nat.toDigits 16 value).headD '0'
  String.ofList [digit (byte.toNat / 16), digit (byte.toNat % 16)]

/-- What is said about bytes that are no text: a single byte is shown, of several ones
only the place. -/
def DecodingError.message (error : DecodingError) : String :=
  "'utf-8' codec can't decode " ++
    (if error.count = 1 then
      "byte 0x" ++ byteDigits error.first ++ " in position " ++ toString error.position
    else
      "bytes in position " ++ toString error.position ++ "-" ++
        toString (error.position + error.count - 1)) ++
    ": " ++ error.fault.reason

/-- A character of which some bytes are still to come. -/
structure UnfinishedLetter where
  first : UInt8
  seen : Nat
  /-- The bits that the bytes so far have given. -/
  value : Nat
  /-- The least and the greatest value of the byte to come. -/
  bounds : Nat × Nat
  /-- How many bytes are to come after that one. -/
  further : Nat
  deriving Inhabited

/-- The range of most bytes that continue a character. -/
def continuationBounds : Nat × Nat := (0x80, 0xBF)

/-- The character that a first byte begins, unless it is one by itself. -/
def beginLetter? (byte : UInt8) : Option UnfinishedLetter :=
  let code := byte.toNat
  if 0xC2 ≤ code ∧ code ≤ 0xDF then some ⟨byte, 1, code - 0xC0, continuationBounds, 0⟩
  else if code = 0xE0 then some ⟨byte, 1, 0, (0xA0, 0xBF), 1⟩
  else if code = 0xED then some ⟨byte, 1, 0xD, (0x80, 0x9F), 1⟩
  else if 0xE1 ≤ code ∧ code ≤ 0xEF then some ⟨byte, 1, code - 0xE0, continuationBounds, 1⟩
  else if code = 0xF0 then some ⟨byte, 1, 0, (0x90, 0xBF), 2⟩
  else if 0xF1 ≤ code ∧ code ≤ 0xF3 then some ⟨byte, 1, code - 0xF0, continuationBounds, 2⟩
  else if code = 0xF4 then some ⟨byte, 1, 4, (0x80, 0x8F), 2⟩
  else none

/-- Reads bytes after a number of others; the characters so far come last first. -/
def decodeFrom (position : Nat) (unfinished : Option UnfinishedLetter) (letters : List Char) :
    List UInt8 → Except DecodingError (List Char)
  | [] =>
      match unfinished with
      | none => .ok letters.reverse
      | some letter =>
          .error ⟨position - letter.seen, letter.seen, letter.first, .endOfData⟩
  | byte :: bytes =>
      match unfinished with
      | none =>
          if byte < 0x80 then
            decodeFrom (position + 1) none (Char.ofNat byte.toNat :: letters) bytes
          else
            match beginLetter? byte with
            | some letter => decodeFrom (position + 1) (some letter) letters bytes
            | none => .error ⟨position, 1, byte, .startByte⟩
      | some letter =>
          if letter.bounds.1 ≤ byte.toNat ∧ byte.toNat ≤ letter.bounds.2 then
            let value := letter.value * 64 + byte.toNat % 64
            match letter.further with
            | 0 => decodeFrom (position + 1) none (Char.ofNat value :: letters) bytes
            | further + 1 =>
                let next : UnfinishedLetter :=
                  ⟨letter.first, letter.seen + 1, value, continuationBounds, further⟩
                decodeFrom (position + 1) (some next) letters bytes
          else
            .error ⟨position - letter.seen, letter.seen, letter.first, .continuationByte⟩

/-- Reads bytes as text. -/
def decodeText (bytes : List UInt8) : Except DecodingError (List Char) :=
  decodeFrom 0 none [] bytes

end Lookalike
