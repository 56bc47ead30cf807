import Lookalike.Proofs.Files.Resolution
import Lookalike.Proofs.Harvest.Outcome

/-!
# The path of a source marks its names and changes none

Every scope and every binding carries the path of its file and the name of its module.
Nothing else of a harvest depends on the path: a text read under two paths fails or succeeds
under both, its scopes take the same course, and scopes of the same course have names of the
same texts, in the same order.
-/

namespace Lookalike

open Source

/-! ### Texts of names -/

section

variable (place place' : ScopePlace)

theorem map_text_recorded_occurrence (earlier : List Occurrence) (occurrence : Occurrence) :
    (occurrence.recorded place earlier).map (·.text) =
      (occurrence.recorded place' earlier).map (·.text) := by
  cases occurrence with
  | binding text position kind =>
      simp only [Occurrence.recorded]
      split_ifs <;> rfl
  | declaration names => rfl
  | scope kind name line inside => rfl

theorem map_text_recorded (earlier occurrences : List Occurrence) :
    (recorded place earlier occurrences).map (·.text) =
      (recorded place' earlier occurrences).map (·.text) := by
  induction occurrences generalizing earlier with
  | nil => rfl
  | cons occurrence later ih =>
      rw [recorded, recorded, List.map_append, List.map_append, ih,
        map_text_recorded_occurrence place place']

end

mutual

theorem Occurrence.map_text_gathered (occurrence : Occurrence) (place place' : ScopePlace)
    (earlier : List Occurrence) :
    (occurrence.gathered place earlier).map (·.text) =
      (occurrence.gathered place' earlier).map (·.text) := by
  cases occurrence with
  | binding text position kind =>
      exact map_text_recorded_occurrence place place' earlier (.binding text position kind)
  | declaration names => rfl
  | scope kind name line inside =>
      exact map_text_gathered inside (place.inner kind name line) (place'.inner kind name line) []

theorem map_text_gathered (occurrences : List Occurrence) (place place' : ScopePlace)
    (earlier : List Occurrence) :
    (gathered place earlier occurrences).map (·.text) =
      (gathered place' earlier occurrences).map (·.text) := by
  cases occurrences with
  | nil => rfl
  | cons occurrence later =>
      have firstEq := Occurrence.map_text_gathered occurrence place place' earlier
      have laterEq := map_text_gathered later place place' (occurrence :: earlier)
      rw [gathered, gathered, List.map_append, List.map_append, firstEq, laterEq]

end

/-- The texts of the names of a scope that takes a given course, wherever it stands. -/
def textsOf (propagates : Bool) (course : List Occurrence) : List String :=
  ((SourceScope.mk default course).bindings propagates).map (·.text)

theorem SourceScope.map_text_bindings (propagates : Bool) (scope : SourceScope) :
    (scope.bindings propagates).map (·.text) = textsOf propagates scope.course := by
  cases propagates with
  | false => exact map_text_recorded scope.place default [] scope.course
  | true => exact map_text_gathered scope.course scope.place default []

/-! ### Courses of scopes -/

mutual

theorem Occurrence.map_course_scopes (occurrence : Occurrence) (place place' : ScopePlace) :
    (occurrence.scopes place).map (·.course) = (occurrence.scopes place').map (·.course) := by
  cases occurrence with
  | binding text position kind => rfl
  | declaration names => rfl
  | scope kind name line inside =>
      have insideEq := map_course_scopesOf inside (place.inner kind name line)
        (place'.inner kind name line)
      rw [Occurrence.scopes, Occurrence.scopes, List.map_append, List.map_append, insideEq]
      rfl

theorem map_course_scopesOf (occurrences : List Occurrence) (place place' : ScopePlace) :
    (scopesOf place occurrences).map (·.course) =
      (scopesOf place' occurrences).map (·.course) := by
  cases occurrences with
  | nil => rfl
  | cons occurrence later =>
      have firstEq := Occurrence.map_course_scopes occurrence place place'
      have laterEq := map_course_scopesOf later place place'
      rw [scopesOf, scopesOf, List.map_append, List.map_append, firstEq, laterEq]

end

theorem map_course_moduleScopes (filePath filePath' : String) (statements : List Tree) :
    (moduleScopes filePath statements).map (·.course) =
      (moduleScopes filePath' statements).map (·.course) := by
  have insideEq := map_course_scopesOf (occurrencesOf statements) (modulePlace filePath)
    (modulePlace filePath')
  rw [moduleScopes, moduleScopes, List.map_append, List.map_append, insideEq]
  rfl

/-- The courses of the scopes of a source text, if the text can be harvested. -/
def sourceCourses? (source : String) : Option (List (List Occurrence)) :=
  (sourceScopes source unnamedSource).toOption.map (List.map (·.course))

theorem map_course_sourceScopes (source filePath : String) :
    (sourceScopes source filePath).toOption.map (List.map (·.course)) = sourceCourses? source := by
  simp only [sourceCourses?, sourceScopes]
  cases parseSource source.toList with
  | error fault => cases fault <;> rfl
  | ok statements =>
      dsimp only
      split_ifs with walkable
      · exact congrArg some (map_course_moduleScopes filePath unnamedSource statements)
      · rfl

/-! ### Files -/

/-- The courses of the scopes of a file, if the file can be harvested. -/
def Node.courses? : Node → Option (List (List Occurrence))
  | file content =>
      (decodeText content.data.toList).toOption.bind fun letters =>
        sourceCourses? (String.ofList letters)
  | folder _ => none
  | link _ => none

/-- What is found at the end of a path decides which courses the scopes take that are harvested
there. -/
theorem map_course_fileScopes {tree : FileTree} {path : Path} {node : Node}
    (found : tree.find path = .ok node) :
    (fileScopes tree path).toOption.map (List.map (·.course)) = node.courses? := by
  cases node with
  | file content =>
      have read := FileTree.read_of_find found
      simp only [fileScopes, readText, read, Node.courses?]
      cases decodeText content.data.toList with
      | error fault => rfl
      | ok letters => exact map_course_sourceScopes (String.ofList letters) path.text
  | folder entries =>
      have unread : tree.read path = .error .isAFolder := by
        rw [FileTree.read, found]
        rfl
      rw [fileScopes, readText, unread]
      rfl
  | link target =>
      have unread : tree.read path = .error .missing := by
        rw [FileTree.read, found]
        rfl
      rw [fileScopes, readText, unread]
      rfl

end Lookalike
