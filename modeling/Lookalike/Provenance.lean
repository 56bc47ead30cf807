import Lookalike.Json.Basic

/-!
# Where names and scopes come from

A name carries along where it was bound, and a group of names the scope that they
share.  Matching never looks inside; reports show what they can find out: the places
that harvesting records, plain values, or objects of a caller's own.
-/

namespace Lookalike

/-- Where a lexical scope stands in a source tree. -/
structure ScopePlace where
  filePath : String
  kind : String
  name : String
  /-- The names of the enclosing scopes and the scope's own, joined by dots. -/
  qualifiedName : String
  line : Int
  deriving DecidableEq, Inhabited

namespace ScopePlace

/-- What a scope is called in a report. -/
def label (place : ScopePlace) : String :=
  place.kind ++ " " ++ place.qualifiedName

/-- A scope's record in full. -/
def literal (place : ScopePlace) : String :=
  "ScopeInfo(file_path=" ++ quoted place.filePath ++ ", kind=" ++ quoted place.kind ++
    ", name=" ++ quoted place.name ++ ", qualname=" ++ quoted place.qualifiedName ++
    ", line=" ++ toString place.line ++ ")"

end ScopePlace

/-- Where a name was bound. -/
structure BindingPlace where
  filePath : String
  line : Int
  column : Int
  kind : String
  /-- The qualified name of the scope that binds the name. -/
  scope : String
  deriving DecidableEq, Inhabited

namespace BindingPlace

/-- The file and the line of a binding. -/
def location (place : BindingPlace) : String :=
  place.filePath ++ ":" ++ toString place.line

/-- A binding's record in full. -/
def literal (place : BindingPlace) : String :=
  "NameOrigin(file_path=" ++ quoted place.filePath ++ ", line=" ++ toString place.line ++
    ", column=" ++ toString place.column ++ ", kind=" ++ quoted place.kind ++
    ", scope=" ++ quoted place.scope ++ ")"

end BindingPlace

/-- What a name or a scope refers to. -/
inductive Provenance where
  | scope (place : ScopePlace)
  | binding (place : BindingPlace)
  /-- An object of a caller's own, with its attributes and its text. -/
  | foreign (attributes : List (String × Json)) (text : String)
  | value (value : Json)
  deriving Inhabited

namespace Provenance

/-- No provenance at all. -/
def unknown : Provenance := .value .null

/-- Whether nothing is known. -/
def isUnknown : Provenance → Bool
  | .value .null => true
  | _ => false

/-- A provenance as it is shown in an error message. -/
def literal : Provenance → String
  | .scope place => place.literal
  | .binding place => place.literal
  | .foreign _ text => text
  | .value plain => plain.literal

/-- A provenance as it is shown in a report. -/
def display : Provenance → String
  | .scope place => place.literal
  | .binding place => place.literal
  | .foreign _ text => text
  | .value plain => plain.display

/-- All attributes of a provenance by name; a plain value has none of them. -/
def attributes : Provenance → List (String × Json)
  | .scope place =>
      [("file_path", .string place.filePath), ("kind", .string place.kind),
        ("name", .string place.name), ("qualname", .string place.qualifiedName),
        ("line", .int place.line)]
  | .binding place =>
      [("file_path", .string place.filePath), ("line", .int place.line),
        ("column", .int place.column), ("kind", .string place.kind),
        ("scope", .string place.scope)]
  | .foreign attributes _ => attributes
  | .value _ => []

/-- The attribute of a given name, if there is one. -/
def attribute? (provenance : Provenance) (name : String) : Option Json :=
  (provenance.attributes.find? (·.1 == name)).map (·.2)

end Provenance

end Lookalike
