import Lookalike.Check
import Lookalike.Proofs.Files.Resolution
import Mathlib.Tactic.NormNum

/-!
# Collected files are distinct

Of several paths that lead to the same place, a check keeps the first.  So the places of the
files that it collects are distinct, and all the more the files themselves: nothing that is
kept under the name of a file is overwritten by another file.  Before any of them is dropped,
paths lead to the files of folders and to themselves.
-/

namespace Lookalike

/-! ### First members of their kind -/

section

variable {Member : Type} {same : Member → Member → Bool}

theorem mem_of_mem_eraseDupsBy {member : Member} {members : List Member}
    (mem : member ∈ members.eraseDupsBy same) : member ∈ members := by
  match members with
  | [] => exact mem
  | first :: others =>
      rw [List.eraseDupsBy_cons, List.mem_cons] at mem
      rcases mem with rfl | mem
      · exact List.mem_cons_self
      · have othersMem := mem_of_mem_eraseDupsBy mem
        exact List.mem_cons_of_mem first (List.mem_filter.mp othersMem).1
termination_by members.length
decreasing_by
  exact Nat.lt_succ_of_le (List.length_filter_le _ others)

-- `eraseDupsBy` goes on with what a filter leaves, so that the recursion is on the length.
/-- No member that is kept is the same as one before it. -/
theorem pairwise_eraseDupsBy (members : List Member) :
    (members.eraseDupsBy same).Pairwise fun earlier later => same later earlier = false := by
  match members with
  | [] => exact List.Pairwise.nil
  | first :: others =>
      rw [List.eraseDupsBy_cons, List.pairwise_cons]
      refine ⟨fun later mem => ?_, pairwise_eraseDupsBy _⟩
      have kept := (List.mem_filter.mp (mem_of_mem_eraseDupsBy mem)).2
      simpa using kept
termination_by members.length
decreasing_by
  exact Nat.lt_succ_of_le (List.length_filter_le _ others)

/-- Of members that are all the same, the first is kept. -/
theorem eraseDupsBy_eq_singleton {first : Member} {others : List Member}
    (allSame : ∀ other ∈ others, same other first = true) :
    (first :: others).eraseDupsBy same = [first] := by
  have noneLeft : (others.filter fun other => same other first = false) = [] := by
    simpa using allSame
  rw [List.eraseDupsBy_cons, noneLeft]
  rfl

/-- Keeping the first of several members that a function makes the same is keeping the first
of several values. -/
theorem eraseDupsBy_map {Given : Type} (value : Given → Member) (given : List Given) :
    (given.map value).eraseDupsBy same =
      (given.eraseDupsBy fun left right => same (value left) (value right)).map value := by
  match given with
  | [] => rfl
  | first :: others =>
      rw [List.map_cons, List.eraseDupsBy_cons, List.eraseDupsBy_cons, List.map_cons,
        List.filter_map, eraseDupsBy_map value]
      rfl
termination_by given.length
decreasing_by
  exact Nat.lt_succ_of_le (List.length_filter_le _ others)

end

/-! ### Files -/

namespace Check

theorem keepFirst_eq (tree : FileTree) (files : List Path) :
    keepFirst tree files =
      files.eraseDupsBy fun left right => tree.placeOf left == tree.placeOf right := by
  simp [keepFirst, eraseDupsBy_map, Function.comp_def]

/-- The files that are kept lead to distinct places. -/
theorem nodup_map_placeOf_keepFirst (tree : FileTree) (files : List Path) :
    ((keepFirst tree files).map tree.placeOf).Nodup := by
  rw [keepFirst_eq, List.Nodup, List.pairwise_map]
  refine (pairwise_eraseDupsBy files).imp fun {earlier later} different same => ?_
  rw [same, beq_self_eq_true] at different
  exact Bool.noConfusion different

theorem nodup_collect (check : Check) (tree : FileTree) : (check.collect tree).files.Nodup := by
  refine List.Pairwise.of_map tree.placeOf (fun file other different same => ?_)
    (nodup_map_placeOf_keepFirst tree _)
  exact different (congrArg tree.placeOf same)

/-- The files that paths lead to, in order: those of a folder are the ones that a scan finds,
and any other path stands for itself. -/
def filesOf (tree : FileTree) (config : Config) (paths : List Path) : List Path :=
  paths.flatMap fun path =>
    if tree.isFolder path then (Scan.ofFolder tree config path).files else [path]

theorem files_collect_eq_keepFirst (check : Check) (tree : FileTree) :
    (check.collect tree).files = keepFirst tree (filesOf tree check.config check.paths) := by
  have filesEq : (check.paths.map (scanPath tree check.config)).flatMap Scan.files =
      filesOf tree check.config check.paths := by
    rw [List.flatMap_map]
    apply List.flatMap_congr
    intro path _
    rw [scanPath]
    split_ifs <;> rfl
  rw [collect, filesEq]

/-- Paths that lead to files stand for themselves. -/
theorem filesOf_of_find {tree : FileTree} {paths : List Path} (config : Config)
    (found : ∀ path ∈ paths, ∃ content, tree.find path = .ok (.file content)) :
    filesOf tree config paths = paths := by
  refine Eq.trans (List.flatMap_congr fun path mem => ?_) (List.flatMap_singleton' paths)
  obtain ⟨content, foundFile⟩ := found path mem
  rw [FileTree.isFolder_eq_false_of_find foundFile, if_neg Bool.false_ne_true]

end Check

/-! ### Two files -/

/-- A function with a lambda inside, both of which have a parameter of the same name. -/
def pairSource : String := "def f(a):\n  lambda a: 0\n"

/-- A working directory that holds two files, the second of which is no text. -/
def pairTree : FileTree :=
  { root := .folder [("a.py", .file pairSource.toUTF8), ("b.py", .file ⟨#[255]⟩)] }

/-- A check of the two files, one of them given twice. -/
def pairCheck : Check :=
  { config := {}
    threshold := ⟨3 / 4, by norm_num, by norm_num⟩
    paths := [{ names := ["b.py"] }, { names := ["a.py"] }, { names := ["..", "b.py"] }] }

theorem follow_pairTree_first : pairTree.follow mostLinks [] ["a.py"] = .ok ["a.py"] :=
  FileTree.follow_of_at? mostLinks rfl nofun (by decide)

theorem follow_pairTree_second : pairTree.follow mostLinks [] ["b.py"] = .ok ["b.py"] :=
  FileTree.follow_of_at? mostLinks rfl nofun (by decide)

/-- The way back to the root ends where the other one does. -/
theorem follow_pairTree_detour :
    pairTree.follow mostLinks [] ["..", "b.py"] = .ok ["b.py"] :=
  (FileTree.follow_up rfl).trans follow_pairTree_second

theorem find_pairTree_first :
    pairTree.find { names := ["a.py"] } = .ok (.file pairSource.toUTF8) :=
  FileTree.find_eq_ok_iff.mpr ⟨_, follow_pairTree_first, rfl⟩

theorem find_pairTree_second : pairTree.find { names := ["b.py"] } = .ok (.file ⟨#[255]⟩) :=
  FileTree.find_eq_ok_iff.mpr ⟨_, follow_pairTree_second, rfl⟩

theorem find_pairTree {path : Path} (mem : path ∈ pairCheck.paths) :
    ∃ content, pairTree.find path = .ok (.file content) := by
  simp only [pairCheck, List.mem_cons, List.not_mem_nil, or_false] at mem
  rcases mem with rfl | rfl | rfl
  · exact ⟨_, find_pairTree_second⟩
  · exact ⟨_, find_pairTree_first⟩
  · exact ⟨_, FileTree.find_eq_ok_iff.mpr ⟨_, follow_pairTree_detour, rfl⟩⟩

theorem files_pairCheck :
    (pairCheck.collect pairTree).files = [{ names := ["b.py"] }, { names := ["a.py"] }] := by
  have first : pairTree.placeOf { names := ["a.py"] } = ["a.py"] :=
    FileTree.placeOf_eq_of_follow follow_pairTree_first
  have second : pairTree.placeOf { names := ["b.py"] } = ["b.py"] :=
    FileTree.placeOf_eq_of_follow follow_pairTree_second
  have detour : pairTree.placeOf { names := ["..", "b.py"] } = ["b.py"] :=
    FileTree.placeOf_eq_of_follow follow_pairTree_detour
  rw [Check.files_collect_eq_keepFirst, Check.filesOf_of_find _ fun _ => find_pairTree,
    Check.keepFirst_eq]
  simp [pairCheck, List.eraseDupsBy_cons, first, second, detour]

end Lookalike
