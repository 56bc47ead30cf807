import Lookalike.Matching

/-!
# Scopes and names in reports

How reports name scopes and names and say where they are.  Any provenance is shown by
what can be found out about it.
-/

namespace Lookalike

/-- What a report calls a scope. -/
def scopeTitle : Provenance → String
  | .scope place => place.label
  | other => other.display

/-- The file and the line of a scope; empty if no file is known. -/
def scopeLocation (scope : Provenance) : String :=
  match scope.attribute? "file_path" with
  | none | some .null => ""
  | some file => file.display ++ ":" ++ ((scope.attribute? "line").map Json.display).getD "?"

namespace Name

/-- A name behind its kind, if it has one. -/
def title (name : Name) : String :=
  match name.origin.attribute? "kind" with
  | none => name.display
  | some kind => if kind.isVoid then name.display else kind.display ++ " " ++ name.display

/-- Where a name was bound; empty if nothing is known. -/
def location (name : Name) : String :=
  match name.origin with
  | .binding place => place.location
  | origin => if origin.isUnknown then "" else origin.display

end Name

end Lookalike
