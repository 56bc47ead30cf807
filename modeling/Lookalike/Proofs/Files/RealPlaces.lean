import Lookalike.Client
import Lookalike.Proofs.Check.Preparation
import Lookalike.Proofs.Files.Resolution
import Lookalike.Proofs.Matching.Pruning

/-!
# Real places

A real place is reached from the root through folders alone.  Following a path from a real
place ends at a real place, and a real place can be followed to from the root without any
links.  So once the working directory is a real place, whatever can be found by a path is found
by its resolved path, and a valid client can check it.
-/

namespace Lookalike

namespace FileTree

/-- Whether a place is reached from the root through folders alone, under names that can be
followed. -/
inductive IsReal (tree : FileTree) : (place : List String) → Prop where
  | root : IsReal tree []
  | inside {place : List String} {entries : List (String × Node)} {name : String} {node : Node}
      (outer : IsReal tree place) (stands : tree.root.at? place = some (.folder entries))
      (held : (Node.folder entries).child? name = some node)
      (noLink : ∀ target, node ≠ .link target) (notUp : name ≠ "..")
      (short : name.utf8ByteSize ≤ longestName) : IsReal tree (place ++ [name])

variable {tree : FileTree} {place : List String}

namespace IsReal

theorem exists_node (isReal : tree.IsReal place) : ∃ node, tree.root.at? place = some node := by
  cases isReal with
  | root => exact ⟨tree.root, rfl⟩
  | inside _ stands held => exact ⟨_, at?_of_child? stands held⟩

theorem parent (isReal : tree.IsReal place) : tree.IsReal (parent place) := by
  cases isReal with
  | root => exact .root
  | inside outer => rwa [FileTree.parent, List.dropLast_concat]

/-- From the root a real place is reached along its names. -/
theorem follow_append (isReal : tree.IsReal place) (links : Nat) (names : List String) :
    tree.follow links [] (place ++ names) = tree.follow links place names := by
  induction isReal generalizing names with
  | root => rfl
  | @inside place entries name node _ stands held noLink notUp short ih =>
      rw [List.append_assoc, ih, List.singleton_append,
        follow_into stands held noLink notUp short]

end IsReal

/-- Following names from a real place ends at a real place. -/
theorem isReal_of_follow {links : Nat} {names reached : List String} (isReal : tree.IsReal place)
    (followed : tree.follow links place names = .ok reached) : tree.IsReal reached := by
  -- Going up leaves a real place, a link starts over at one, and entering makes one of a folder's.
  fun_induction follow tree links place names with
  | case1 =>
      cases followed
      exact isReal
  | case2 links place rest entries stands ih => exact ih isReal.parent followed
  | case3 => cases followed
  | case4 => cases followed
  | case5 => cases followed
  | case6 place name rest entries stands notUp _ target held links ih =>
      refine ih ?_ followed
      rw [linkStart]
      split_ifs
      · exact .root
      · exact isReal
  | case7 links place name rest entries stands notUp short node noLink held ih =>
      exact ih (.inside isReal stands held noLink notUp (not_lt.mp short)) followed
  | case8 => cases followed
  | case9 => cases followed

/-- What is found at the end of a path is found at the end of its resolved path. -/
theorem find_resolve {path : Path} {node : Node} (home : tree.IsReal tree.home)
    (found : tree.find path = .ok node) : tree.find (tree.resolve path) = .ok node := by
  obtain ⟨place, followed, stands⟩ := find_eq_ok_iff.mp found
  have startReal : tree.IsReal (tree.start path) := by
    rw [start]
    split_ifs
    · exact .root
    · exact home
  have placeReal := isReal_of_follow startReal followed
  have wayEq := placeReal.follow_append mostLinks []
  rw [List.append_nil, follow] at wayEq
  refine find_eq_ok_iff.mpr ⟨place, ?_, stands⟩
  rw [resolve, placeOf_eq_of_follow followed]
  exact wayEq

/-- Something stands at the working directory. -/
theorem exists?_home (home : tree.IsReal tree.home) : tree.exists? {} = true := by
  obtain ⟨node, stands⟩ := home.exists_node
  have found : tree.find {} = .ok node := by
    refine find_eq_ok_iff.mpr ⟨tree.home, ?_, stands⟩
    rw [follow]
    rfl
  exact exists?_of_find found

end FileTree

/-! ### Checks of what exists -/

namespace Client

variable {tree : FileTree}

theorem locate_of_exists? {path : Path} (home : tree.IsReal tree.home)
    (pathExists : tree.exists? path = true) :
    locate tree path = .ok (tree.resolve path) ∧ tree.exists? (tree.resolve path) = true := by
  cases found : tree.find path with
  | error fault =>
      rw [FileTree.exists?, found] at pathExists
      cases pathExists
  | ok node =>
      have foundAgain := FileTree.find_resolve home found
      simp [locate, foundAgain, FileTree.exists?_of_find foundAgain]

/-- The check that a client prepares for paths, once they are resolved. -/
def prepared (client : Client) (tree : FileTree) (paths : List Path) : Check :=
  { config := client.config
    threshold := client.threshold
    paths := (if paths.isEmpty then [{}] else paths).map tree.resolve }

/-- A valid client runs its check of whatever exists. -/
theorem check_of_exists? {client : Client} {paths : List Path}
    (valid : client.config.validate = .ok client.threshold) (home : tree.IsReal tree.home)
    (allExist : ∀ path ∈ paths, tree.exists? path = true) :
    client.check tree paths = (client.prepared tree paths).run tree [] := by
  have targetsExist : ∀ path ∈ (if paths.isEmpty then [{}] else paths),
      tree.exists? path = true := by
    split_ifs
    · simpa using FileTree.exists?_home home
    · exact allExist
  have located := mapM_eq_ok_map fun path mem =>
    (locate_of_exists? home (targetsExist path mem)).1
  have resolvedExist : ∀ path ∈ (if paths.isEmpty then [{}] else paths).map tree.resolve,
      tree.exists? path = true := by
    simp only [List.forall_mem_map]
    exact fun path mem => (locate_of_exists? home (targetsExist path mem)).2
  have preparedEq : Check.prepare tree client.config (client.prepared tree paths).paths =
      .ok (client.prepared tree paths) :=
    Check.prepare_eq_ok_iff.mpr ⟨client.threshold, valid, resolvedExist, rfl⟩
  rw [prepared] at preparedEq ⊢
  simp only [check, located, preparedEq, bind, Except.bind]

end Client

end Lookalike
