import Lookalike.Json.Basic

/-!
# Writing JSON

JSON text in ASCII alone: every other character is written as one or two UTF-16 units.
`Json.render` writes a value on one line, `Json.renderIndented` with one item a line
and two blanks for each level.
-/

namespace Lookalike

/-- A UTF-16 unit as an escape. -/
def unitEscape (unit : Nat) : String :=
  "\\u" ++ hexDigits 4 unit

/-- A character of a JSON string. -/
def jsonLetter (letter : Char) : String :=
  let point := letter.toNat
  if letter = '"' then "\\\""
  else if letter = '\\' then "\\\\"
  else if letter = '\n' then "\\n"
  else if letter = '\r' then "\\r"
  else if letter = '\t' then "\\t"
  else if point = 0x08 then "\\b"
  else if point = 0x0C then "\\f"
  else if 0x20 ≤ point ∧ point < 0x7F then String.singleton letter
  else if point < 0x10000 then unitEscape point
  else unitEscape (0xD800 + (point - 0x10000) / 0x400) ++
    unitEscape (0xDC00 + (point - 0x10000) % 0x400)

/-- A text as a JSON string. -/
def jsonString (text : String) : String :=
  "\"" ++ String.join (text.toList.map jsonLetter) ++ "\""

/-- A number as it is written in JSON; the values outside of JSON are spelled out. -/
def jsonNumber : Number → String
  | .int value => toString value
  | .float .nan => "NaN"
  | .float (.infinity negative) => if negative then "-Infinity" else "Infinity"
  | .float value => value.text

/-- A line break with the indentation of a level. -/
def lineBreak (level : Nat) : String :=
  "\n" ++ String.ofList (List.replicate (2 * level) ' ')

namespace Json

mutual

/-- A value on one line. -/
def render : Json → String
  | .null => "null"
  | .bool value => if value then "true" else "false"
  | .number value => jsonNumber value
  | .string value => jsonString value
  | .array items => "[" ++ ", ".intercalate (renderItems items) ++ "]"
  | .object fields => "\x7b" ++ ", ".intercalate (renderFields fields) ++ "\x7d"

def renderItems : List Json → List String
  | [] => []
  | item :: items => item.render :: renderItems items

def renderFields : List (String × Json) → List String
  | [] => []
  | (name, value) :: fields => (jsonString name ++ ": " ++ value.render) :: renderFields fields

end

/-- Puts written items between brackets, one a line; nothing stands between the brackets
of an empty value. -/
def bracketLines (opening closing : String) (level : Nat) (items : List String) : String :=
  if items.isEmpty then opening ++ closing
  else opening ++ lineBreak (level + 1) ++ ("," ++ lineBreak (level + 1)).intercalate items ++
    lineBreak level ++ closing

mutual

/-- A value with one item a line, standing at an indentation level. -/
def renderAt (level : Nat) : Json → String
  | .array items => bracketLines "[" "]" level (renderItemsAt (level + 1) items)
  | .object fields => bracketLines "\x7b" "\x7d" level (renderFieldsAt (level + 1) fields)
  | .null => "null"
  | .bool value => if value then "true" else "false"
  | .number value => jsonNumber value
  | .string value => jsonString value

def renderItemsAt (level : Nat) : List Json → List String
  | [] => []
  | item :: items => item.renderAt level :: renderItemsAt level items

def renderFieldsAt (level : Nat) : List (String × Json) → List String
  | [] => []
  | (name, value) :: fields =>
      (jsonString name ++ ": " ++ value.renderAt level) :: renderFieldsAt level fields

end

/-- A value with one item a line. -/
def renderIndented (value : Json) : String :=
  value.renderAt 0

end Json

end Lookalike
