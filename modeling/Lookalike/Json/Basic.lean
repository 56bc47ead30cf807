import Lookalike.Number
import Lookalike.Text.Quoted

/-!
# JSON values

Values as they are exchanged with other programs: fields keep their order, integers
and floating-point numbers are told apart.  `Json.typeName` and `Json.display` are how
a value that is none of the expected ones appears in a message.
-/

namespace Lookalike

/-- A JSON value. -/
inductive Json where
  | null
  | bool (value : Bool)
  | number (value : Number)
  | string (value : String)
  | array (items : List Json)
  | object (fields : List (String × Json))
  deriving Inhabited

namespace Json

/-- An integer as a JSON value. -/
def int (value : Int) : Json := .number (.int value)

/-- A natural number as a JSON value. -/
def nat (value : Nat) : Json := .number (.int value)

/-- A floating-point number as a JSON value. -/
def float (value : Binary64) : Json := .number (.float value)

/-- The value of a field, if the value is an object that has it. -/
def field? (value : Json) (name : String) : Option Json :=
  match value with
  | .object fields => (fields.find? (·.1 == name)).map (·.2)
  | _ => none

/-- Whether a value counts as absent: nothing, no, zero or without content. -/
def isVoid : Json → Bool
  | .null => true
  | .bool value => !value
  | .number (.int value) => value = 0
  | .number (.float value) => value.numEq (.finite 0)
  | .string value => value.isEmpty
  | .array items => items.isEmpty
  | .object fields => fields.isEmpty

/-- The name of a value's type, as messages give it. -/
def typeName : Json → String
  | .null => "NoneType"
  | .bool _ => "bool"
  | .number (.int _) => "int"
  | .number (.float _) => "float"
  | .string _ => "str"
  | .array _ => "list"
  | .object _ => "dict"

mutual

/-- A value as it is shown inside another one: texts in quotes. -/
def literal : Json → String
  | .null => "None"
  | .bool value => if value then "True" else "False"
  | .number value => value.text
  | .string value => quoted value
  | .array items => "[" ++ ", ".intercalate (literals items) ++ "]"
  | .object fields => "\x7b" ++ ", ".intercalate (fieldLiterals fields) ++ "\x7d"

def literals : List Json → List String
  | [] => []
  | item :: items => item.literal :: literals items

def fieldLiterals : List (String × Json) → List String
  | [] => []
  | (name, value) :: fields => (quoted name ++ ": " ++ value.literal) :: fieldLiterals fields

end

/-- A value as it is shown to people: a text without quotes, all else as inside
another value. -/
def display : Json → String
  | .string value => value
  | value => value.literal

end Json

end Lookalike
