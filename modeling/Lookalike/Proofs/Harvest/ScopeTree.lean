import Lookalike.Proofs.Harvest.Frames

/-!
# The tree of scopes

The scopes of a source form a tree: inside a scope stand the scopes that its body opens,
and those that stand in the decorators, default values and bases of the functions and
classes in it.  Harvesting returns the scopes of this tree in the order in which they are
complete: all scopes inside a scope, in the order of the source, and then the scope.
-/

namespace Lookalike

open Source

/-- A scope with the scopes directly inside it, in order. -/
inductive ScopeTree where
  | node (place : ScopePlace) (inside : List ScopeTree)

namespace ScopeTree

/-- The outermost scope of a tree. -/
def place : ScopeTree → ScopePlace
  | node place _ => place

mutual

/-- The scopes of a tree in the order in which they are complete. -/
def completionOrder : ScopeTree → List ScopePlace
  | node place inside => completionOrderOf inside ++ [place]

/-- The scopes of trees one after the other. -/
def completionOrderOf : List ScopeTree → List ScopePlace
  | [] => []
  | tree :: trees => tree.completionOrder ++ completionOrderOf trees

end

/-- Every scope inside another one has its name behind a dot, and is of the same file. -/
inductive Qualified : ScopeTree → Prop where
  | node {place : ScopePlace} {inside : List ScopeTree}
      (qualified : ∀ tree ∈ inside,
        tree.place.qualifiedName = place.qualifiedName ++ "." ++ tree.place.name ∧
          tree.place.filePath = place.filePath)
      (inner : ∀ tree ∈ inside, tree.Qualified) : Qualified (.node place inside)

@[simp]
theorem completionOrderOf_append (trees trees' : List ScopeTree) :
    completionOrderOf (trees ++ trees') = completionOrderOf trees ++ completionOrderOf trees' := by
  induction trees with
  | nil => rfl
  | cons tree trees ih => simp [completionOrderOf, ih]

end ScopeTree

/-! ### The scope tree of a syntax tree -/

mutual

/-- The scopes that a tree opens directly inside the scope in which it stands. -/
def Source.Tree.scopeTrees (place : ScopePlace) : Tree → List ScopeTree
  | .function name position decorators _ defaults _ body =>
      scopeTreesOf place decorators ++ scopeTreesOf place defaults ++
        [.node (place.inner .function name position.line)
          (scopeTreesOf (place.inner .function name position.line) body)]
  | .lambda position _ defaults body =>
      scopeTreesOf place defaults ++
        [.node (place.inner .lambda lambdaName position.line)
          (body.scopeTrees (place.inner .lambda lambdaName position.line))]
  | .classDefinition name position decorators bases keywordValues body =>
      scopeTreesOf place decorators ++ scopeTreesOf place bases ++
        scopeTreesOf place keywordValues ++
        [.node (place.inner .classBody name position.line)
          (scopeTreesOf (place.inner .classBody name position.line) body)]
  | .compound _ parts | .handler _ _ parts | .capture _ _ parts => scopeTreesOf place parts
  | .identifier _ _ _ | .importation _ _ | .declaration _ => []

/-- The scopes that trees open one after the other. -/
def scopeTreesOf (place : ScopePlace) : List Tree → List ScopeTree
  | [] => []
  | tree :: trees => tree.scopeTrees place ++ scopeTreesOf place trees

end

/-- The scope tree of a source. -/
def moduleTree (filePath : String) (statements : List Tree) : ScopeTree :=
  .node (modulePlace filePath) (scopeTreesOf (modulePlace filePath) statements)

/-! ### Visited trees that open a scope -/

/-- What the place of a scope tells of the tree that opens it. -/
def ScopePlace.heading (place : ScopePlace) : String × String × Int :=
  (place.kind, place.name, place.line)

/-- The heading of the scope that a tree opens, if it opens one. -/
def Source.Tree.heading? : Tree → Option (String × String × Int)
  | .function name position _ _ _ _ _ => some ("function", name, position.line)
  | .lambda position _ _ _ => some ("lambda", lambdaName, position.line)
  | .classDefinition name position _ _ _ _ => some ("class", name, position.line)
  | _ => none

mutual

/-- All trees at the visited positions of a tree, itself included. -/
def Source.Tree.reached : Tree → List Tree
  | tree@(.function _ _ decorators _ defaults _ body) =>
      tree :: (reachedIn decorators ++ reachedIn defaults ++ reachedIn body)
  | tree@(.lambda _ _ defaults body) => tree :: (reachedIn defaults ++ body.reached)
  | tree@(.classDefinition _ _ decorators bases keywordValues body) =>
      tree :: (reachedIn decorators ++ reachedIn bases ++ reachedIn keywordValues ++
        reachedIn body)
  | tree@(.compound _ parts) => tree :: reachedIn parts
  | tree@(.handler _ _ parts) => tree :: reachedIn parts
  | tree@(.capture _ _ parts) => tree :: reachedIn parts
  | tree => [tree]

/-- All trees at visited positions of trees. -/
def reachedIn : List Tree → List Tree
  | [] => []
  | tree :: trees => tree.reached ++ reachedIn trees

end

/-! ### Order -/

mutual

/-- The scopes of a tree's occurrences are those of its scope trees, in completion order. -/
theorem map_place_scopesOf_occurrences (tree : Tree) (place : ScopePlace) :
    (scopesOf place tree.occurrences).map (·.place) =
      ScopeTree.completionOrderOf (tree.scopeTrees place) := by
  cases tree with
  | identifier name position stored => cases stored <;> rfl
  | compound construct parts => exact map_place_scopesOf_occurrencesOf parts place
  | function name position decorators parameters defaults annotations body =>
      have decoratorsEq := map_place_scopesOf_occurrencesOf decorators place
      have defaultsEq := map_place_scopesOf_occurrencesOf defaults place
      have bodyEq := map_place_scopesOf_occurrencesOf body
        (place.inner .function name position.line)
      simp [Tree.occurrences, Tree.scopeTrees, scopesOf, Occurrence.scopes,
        ScopeTree.completionOrderOf, ScopeTree.completionOrder, decoratorsEq, defaultsEq,
        bodyEq]
  | lambda position parameters defaults body =>
      have defaultsEq := map_place_scopesOf_occurrencesOf defaults place
      have bodyEq := map_place_scopesOf_occurrences body
        (place.inner .lambda lambdaName position.line)
      simp [Tree.occurrences, Tree.scopeTrees, scopesOf, Occurrence.scopes,
        ScopeTree.completionOrderOf, ScopeTree.completionOrder, defaultsEq, bodyEq]
  | classDefinition name position decorators bases keywordValues body =>
      have decoratorsEq := map_place_scopesOf_occurrencesOf decorators place
      have basesEq := map_place_scopesOf_occurrencesOf bases place
      have keywordsEq := map_place_scopesOf_occurrencesOf keywordValues place
      have bodyEq := map_place_scopesOf_occurrencesOf body
        (place.inner .classBody name position.line)
      simp [Tree.occurrences, Tree.scopeTrees, scopesOf, Occurrence.scopes,
        ScopeTree.completionOrderOf, ScopeTree.completionOrder, decoratorsEq, basesEq,
        keywordsEq, bodyEq]
  | handler alias? position parts =>
      have partsEq := map_place_scopesOf_occurrencesOf parts place
      simp [Tree.occurrences, Tree.scopeTrees, scopesOf_map_binding, partsEq]
  | importation aliases position =>
      simp [Tree.occurrences, Tree.scopeTrees, scopesOf_map_binding, ScopeTree.completionOrderOf]
  | declaration names => rfl
  | capture name? position parts =>
      have partsEq := map_place_scopesOf_occurrencesOf parts place
      simp [Tree.occurrences, Tree.scopeTrees, scopesOf_map_binding, partsEq]

theorem map_place_scopesOf_occurrencesOf (trees : List Tree) (place : ScopePlace) :
    (scopesOf place (occurrencesOf trees)).map (·.place) =
      ScopeTree.completionOrderOf (scopeTreesOf place trees) := by
  cases trees with
  | nil => rfl
  | cons tree trees =>
      simp [occurrencesOf, scopeTreesOf, map_place_scopesOf_occurrences tree place,
        map_place_scopesOf_occurrencesOf trees place]

end

/-! ### Names -/

/-- A tree that may stand directly inside a scope. -/
def ScopeTree.IsInner (place : ScopePlace) (tree : ScopeTree) : Prop :=
  (∃ kind name line, tree.place = place.inner kind name line) ∧ tree.Qualified

theorem ScopeTree.qualified_of_isInner {place : ScopePlace} {inside : List ScopeTree}
    (inner : ∀ tree ∈ inside, tree.IsInner place) : (node place inside).Qualified := by
  refine .node (fun tree mem => ?_) fun tree mem => (inner tree mem).2
  obtain ⟨⟨kind, name, line, placeEq⟩, -⟩ := inner tree mem
  rw [placeEq]
  exact ⟨rfl, rfl⟩

theorem ScopeTree.isInner_node {place : ScopePlace} {kind : ScopeKind} {name : String}
    {line : Nat} {inside : List ScopeTree}
    (inner : ∀ tree ∈ inside, tree.IsInner (place.inner kind name line)) :
    (node (place.inner kind name line) inside).IsInner place :=
  ⟨⟨kind, name, line, rfl⟩, qualified_of_isInner inner⟩

mutual

theorem isInner_of_mem_scopeTrees (tree : Tree) (place : ScopePlace) :
    ∀ scope ∈ tree.scopeTrees place, scope.IsInner place := by
  intro scope mem
  cases tree with
  | identifier name position stored => exact absurd mem List.not_mem_nil
  | compound construct parts => exact isInner_of_mem_scopeTreesOf parts place scope mem
  | function name position decorators parameters defaults annotations body =>
      simp only [Tree.scopeTrees, List.mem_append, List.mem_singleton] at mem
      rcases mem with (mem | mem) | rfl
      · exact isInner_of_mem_scopeTreesOf decorators place scope mem
      · exact isInner_of_mem_scopeTreesOf defaults place scope mem
      · exact ScopeTree.isInner_node (isInner_of_mem_scopeTreesOf body _)
  | lambda position parameters defaults body =>
      simp only [Tree.scopeTrees, List.mem_append, List.mem_singleton] at mem
      rcases mem with mem | rfl
      · exact isInner_of_mem_scopeTreesOf defaults place scope mem
      · exact ScopeTree.isInner_node (isInner_of_mem_scopeTrees body _)
  | classDefinition name position decorators bases keywordValues body =>
      simp only [Tree.scopeTrees, List.mem_append, List.mem_singleton] at mem
      rcases mem with ((mem | mem) | mem) | rfl
      · exact isInner_of_mem_scopeTreesOf decorators place scope mem
      · exact isInner_of_mem_scopeTreesOf bases place scope mem
      · exact isInner_of_mem_scopeTreesOf keywordValues place scope mem
      · exact ScopeTree.isInner_node (isInner_of_mem_scopeTreesOf body _)
  | handler alias? position parts => exact isInner_of_mem_scopeTreesOf parts place scope mem
  | importation aliases position => exact absurd mem List.not_mem_nil
  | declaration names => exact absurd mem List.not_mem_nil
  | capture name? position parts => exact isInner_of_mem_scopeTreesOf parts place scope mem

theorem isInner_of_mem_scopeTreesOf (trees : List Tree) (place : ScopePlace) :
    ∀ scope ∈ scopeTreesOf place trees, scope.IsInner place := by
  intro scope mem
  cases trees with
  | nil => exact absurd mem List.not_mem_nil
  | cons tree trees =>
      rcases List.mem_append.mp mem with mem | mem
      · exact isInner_of_mem_scopeTrees tree place scope mem
      · exact isInner_of_mem_scopeTreesOf trees place scope mem

end

/-! ### One scope for each tree that opens one -/

/-- The headings of scopes, in the order in which they are complete. -/
def ScopeTree.headings (trees : List ScopeTree) : List (String × String × Int) :=
  (completionOrderOf trees).map ScopePlace.heading

@[simp]
theorem ScopeTree.headings_append (trees trees' : List ScopeTree) :
    headings (trees ++ trees') = headings trees ++ headings trees' := by
  simp [headings]

/-- A scope is complete after all scopes around and inside it that are opened before. -/
theorem ScopeTree.headings_append_node_perm {place : ScopePlace}
    {outer inside : List ScopeTree} {around within : List (String × String × Int)}
    (outerPerm : (headings outer).Perm around) (insidePerm : (headings inside).Perm within) :
    (headings (outer ++ [node place inside])).Perm (place.heading :: (around ++ within)) := by
  have nodeEq : headings [node place inside] = headings inside ++ [place.heading] := by
    simp [headings, completionOrderOf, completionOrder]
  rw [headings_append, nodeEq, ← List.append_assoc]
  refine (List.perm_append_singleton _ _).trans (List.Perm.cons _ ?_)
  exact outerPerm.append insidePerm

mutual

/-- The headings of a tree's scopes are those of the visited trees that open scopes. -/
theorem headings_scopeTrees_perm (tree : Tree) (place : ScopePlace) :
    (ScopeTree.headings (tree.scopeTrees place)).Perm
      (tree.reached.filterMap Tree.heading?) := by
  cases tree with
  | identifier name position stored => exact List.Perm.nil
  | compound construct parts => exact headings_scopeTreesOf_perm parts place
  | function name position decorators parameters defaults annotations body =>
      have outerPerm := (headings_scopeTreesOf_perm decorators place).append
        (headings_scopeTreesOf_perm defaults place)
      rw [← ScopeTree.headings_append] at outerPerm
      simp only [Tree.scopeTrees, Tree.reached, List.filterMap_cons, Tree.heading?,
        List.filterMap_append]
      exact ScopeTree.headings_append_node_perm outerPerm (headings_scopeTreesOf_perm body _)
  | lambda position parameters defaults body =>
      simp only [Tree.scopeTrees, Tree.reached, List.filterMap_cons, Tree.heading?,
        List.filterMap_append]
      exact ScopeTree.headings_append_node_perm (headings_scopeTreesOf_perm defaults place)
        (headings_scopeTrees_perm body _)
  | classDefinition name position decorators bases keywordValues body =>
      have outerPerm := ((headings_scopeTreesOf_perm decorators place).append
        (headings_scopeTreesOf_perm bases place)).append
          (headings_scopeTreesOf_perm keywordValues place)
      rw [← ScopeTree.headings_append, ← ScopeTree.headings_append] at outerPerm
      simp only [Tree.scopeTrees, Tree.reached, List.filterMap_cons, Tree.heading?,
        List.filterMap_append]
      exact ScopeTree.headings_append_node_perm outerPerm (headings_scopeTreesOf_perm body _)
  | handler alias? position parts => exact headings_scopeTreesOf_perm parts place
  | importation aliases position => exact List.Perm.nil
  | declaration names => exact List.Perm.nil
  | capture name? position parts => exact headings_scopeTreesOf_perm parts place

theorem headings_scopeTreesOf_perm (trees : List Tree) (place : ScopePlace) :
    (ScopeTree.headings (scopeTreesOf place trees)).Perm
      ((reachedIn trees).filterMap Tree.heading?) := by
  cases trees with
  | nil => exact List.Perm.nil
  | cons tree trees =>
      simp only [scopeTreesOf, reachedIn, ScopeTree.headings_append, List.filterMap_append]
      exact (headings_scopeTrees_perm tree place).append (headings_scopeTreesOf_perm trees place)

end

/-! ### A whole source -/

theorem map_place_moduleScopes (filePath : String) (statements : List Tree) :
    (moduleScopes filePath statements).map (·.place) =
      (moduleTree filePath statements).completionOrder := by
  rw [moduleScopes, List.map_append, map_place_scopesOf_occurrencesOf]
  rfl

theorem qualified_moduleTree (filePath : String) (statements : List Tree) :
    (moduleTree filePath statements).Qualified :=
  ScopeTree.qualified_of_isInner (isInner_of_mem_scopeTreesOf statements _)

mutual

theorem filePath_eq_of_qualified (tree : ScopeTree) (qualified : tree.Qualified) :
    ∀ place ∈ tree.completionOrder, place.filePath = tree.place.filePath := by
  intro found mem
  cases tree with
  | node place inside =>
      cases qualified with
      | node qualified inner =>
          rcases List.mem_append.mp mem with mem | mem
          · exact filePath_eq_of_forall_qualified inside place.filePath
              (fun tree mem => ⟨(qualified tree mem).2, inner tree mem⟩) found mem
          · rw [List.mem_singleton.mp mem]
            rfl

theorem filePath_eq_of_forall_qualified (trees : List ScopeTree) (filePath : String)
    (qualified : ∀ tree ∈ trees, tree.place.filePath = filePath ∧ tree.Qualified) :
    ∀ place ∈ ScopeTree.completionOrderOf trees, place.filePath = filePath := by
  intro found mem
  cases trees with
  | nil => exact absurd mem List.not_mem_nil
  | cons tree trees =>
      obtain ⟨filePathEq, treeQualified⟩ := qualified tree List.mem_cons_self
      rcases List.mem_append.mp mem with mem | mem
      · rw [filePath_eq_of_qualified tree treeQualified found mem, filePathEq]
      · exact filePath_eq_of_forall_qualified trees filePath
          (fun tree mem => qualified tree (List.mem_cons_of_mem _ mem)) found mem

end

theorem headings_moduleTree_perm (filePath : String) (statements : List Tree) :
    ((moduleTree filePath statements).completionOrder.map ScopePlace.heading).Perm
      ((modulePlace filePath).heading :: (reachedIn statements).filterMap Tree.heading?) := by
  have perm : (ScopeTree.headings ([] ++ [moduleTree filePath statements])).Perm
      ((modulePlace filePath).heading ::
        ([] ++ (reachedIn statements).filterMap Tree.heading?)) :=
    ScopeTree.headings_append_node_perm List.Perm.nil
      (headings_scopeTreesOf_perm statements (modulePlace filePath))
  simpa [ScopeTree.headings, ScopeTree.completionOrderOf] using perm

/-- The scopes of a source are complete in the order of its scope tree, in which every scope
is named after the one around it.  There is one for the source, which comes last, and one
for each visited tree that opens a scope; propagation changes none of them.  A text from which
a parser reads the statements is harvested in these scopes. -/
theorem completed_eq_completionOrder {room : Nat} {propagates : Bool} {filePath : String}
    {statements : List Tree} {walk : Walk}
    (walked : Harvester.walkModule room propagates filePath statements = .ok walk) :
    (∀ parse source, parse source.toList = .ok statements →
        ∀ harvester : Harvester, harvester.last.propagates = propagates →
          harvester.harvestIn { parse := parse, room := room } source filePath =
            ({ outcome := .ok walk.completed.reverse }, { last := walk })) ∧
      walk.frames = [] ∧
      walk.completed.reverse.map (·.place) = (moduleTree filePath statements).completionOrder ∧
      (walk.completed.reverse.map (·.place)).getLast? = some (modulePlace filePath) ∧
      (moduleTree filePath statements).Qualified ∧
      (walk.completed.reverse.map (·.place.heading)).Perm
        ((modulePlace filePath).heading :: (reachedIn statements).filterMap Tree.heading?) ∧
      (∀ scope ∈ walk.completed.reverse, scope.place.filePath = filePath) ∧
      ∃ other,
        Harvester.walkModule room (!propagates) filePath statements = .ok other ∧
          other.completed.reverse.map (·.place) = walk.completed.reverse.map (·.place) := by
  obtain ⟨walkable, rfl⟩ := walkModule_eq_ok_iff.mp walked
  have placesEq (mode : Bool) :
      (completeWalk mode filePath statements).completed.reverse.map (·.place) =
        (moduleTree filePath statements).completionOrder := by
    simp [completeWalk, ← map_place_moduleScopes, SourceScope.harvested]
  refine ⟨?_, rfl, placesEq propagates, ?_, qualified_moduleTree filePath statements, ?_, ?_,
    completeWalk (!propagates) filePath statements,
    walkModule_eq_ok_iff.mpr ⟨walkable, rfl⟩, ?_⟩
  · rintro parse source parsed harvester rfl
    exact harvestIn_eq_of_walked parsed walked
  · rw [placesEq]
    simp [moduleTree, ScopeTree.completionOrder]
  · have headingsEq := congrArg (List.map ScopePlace.heading) (placesEq propagates)
    rw [List.map_map] at headingsEq
    exact (List.Perm.of_eq headingsEq).trans (headings_moduleTree_perm filePath statements)
  · intro scope mem
    have placeMem := List.mem_map_of_mem (f := HarvestedScope.place) mem
    rw [placesEq] at placeMem
    exact filePath_eq_of_qualified _ (qualified_moduleTree filePath statements) _ placeMem
  · rw [placesEq, placesEq]

theorem completed_eq_completionOrder_of_nested :
    ∃ walk,
      Harvester.walkModule Runtime.standard.room true unnamedSource nestedStatements = .ok walk ∧
        walk.frames = [] ∧
        walk.completed.reverse.map (·.place) =
          (moduleTree unnamedSource nestedStatements).completionOrder ∧
        (moduleTree unnamedSource nestedStatements).completionOrder.map (·.qualifiedName) =
          ["<module>.<lambda>", "<module>.outer.Inner", "<module>.outer", "<module>"] := by
  have walked : Harvester.walkModule Runtime.standard.room true unnamedSource nestedStatements =
      .ok (completeWalk true unnamedSource nestedStatements) := by rfl
  obtain ⟨-, balanced, order, -⟩ := completed_eq_completionOrder walked
  exact ⟨_, walked, balanced, order, by decide⟩

end Lookalike
