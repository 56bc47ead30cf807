import Lookalike.Proofs.Check.Propagation
import Lookalike.Proofs.Files.Resolution
import Lookalike.Proofs.Harvest.Courses

/-!
# Each place is checked once

Several paths can lead to one place: by another spelling, through links, or through a folder
that is scanned.  A check keeps the first of them.  Which one it keeps shows in the origins of
names, but in none of the totals, since these depend on nothing but what stands at the places
that are reached.  So paths can be put in another order, repeated, or added to others that
lead to all their files already.
-/

namespace Lookalike

/-! ### First members of their kind -/

section

variable {Member Key : Type} [BEq Key] [LawfulBEq Key] {key : Member → Key}

/-- The members of a list whose key none before them has. -/
def firstsBy (key : Member → Key) (members : List Member) : List Member :=
  (members.zipIdx.filter fun entry =>
    !((members.take entry.2).map key).contains (key entry.1)).map (·.1)

-- The loop keeps the members so far in reverse; all that counts of them are their keys, which
-- are those of all members that the loop has gone past.
theorem eraseDupsBy_loop_eq (before later kept : List Member)
    (sameKeys : ∀ value, value ∈ kept.map key ↔ value ∈ before.map key) :
    List.eraseDupsBy.loop (fun left right => key left == key right) later kept =
      kept.reverse ++ ((later.zipIdx before.length).filter fun entry =>
        !(((before ++ later).take entry.2).map key).contains (key entry.1)).map (·.1) := by
  induction later generalizing before kept with
  | nil => simp [List.eraseDupsBy.loop]
  | cons member later ih =>
      have known : kept.any (fun other => key member == key other) =
          (before.map key).contains (key member) := by
        rw [Bool.eq_iff_iff, List.any_eq_true, List.contains_iff_mem, ← sameKeys, List.mem_map]
        simp only [beq_iff_eq, eq_comm (a := key member)]
      have splitEq : before ++ member :: later = (before ++ [member]) ++ later := by simp
      have lengthEq : before.length + 1 = (before ++ [member]).length := by simp
      rw [List.eraseDupsBy.loop, known, List.zipIdx_cons, List.filter_cons,
        List.take_append_length]
      cases isKnown : (before.map key).contains (key member) with
      | true =>
          have sameKeys' : ∀ value,
              value ∈ kept.map key ↔ value ∈ (before ++ [member]).map key := by
            intro value
            rw [List.contains_iff_mem] at isKnown
            rw [sameKeys, List.map_append, List.mem_append]
            constructor
            · exact Or.inl
            · rintro (mem | mem)
              · exact mem
              · rwa [List.mem_singleton.mp mem]
          rw [splitEq, lengthEq]
          exact ih _ _ sameKeys'
      | false =>
          have sameKeys' : ∀ value,
              value ∈ (member :: kept).map key ↔ value ∈ (before ++ [member]).map key := by
            intro value
            rw [List.map_cons, List.mem_cons, sameKeys, List.map_append, List.mem_append, or_comm,
              List.map_singleton, List.mem_singleton]
          rw [splitEq, lengthEq]
          simpa using ih _ _ sameKeys'

theorem eraseDupsBy_eq_firstsBy (members : List Member) :
    members.eraseDupsBy (fun left right => key left == key right) = firstsBy key members :=
  eraseDupsBy_loop_eq [] members [] fun _ => Iff.rfl

theorem mem_map_firstsBy_of_lt {members : List Member} {index : Nat}
    (lt : index < members.length) : key members[index] ∈ (firstsBy key members).map key := by
  induction index using Nat.strongRecOn with
  | ind index ih =>
      by_cases known : key members[index] ∈ (members.take index).map key
      · obtain ⟨earlier, mem, keyEq⟩ := List.mem_map.mp known
        obtain ⟨index', lt', rfl⟩ := List.mem_take_iff_getElem.mp mem
        rw [← keyEq]
        exact ih index' (by omega) (by omega)
      · apply List.mem_map_of_mem
        apply List.mem_map.mpr
        refine ⟨(members[index], index), ?_, rfl⟩
        rw [List.mem_filter]
        refine ⟨?_, by simpa using known⟩
        simp [List.mem_zipIdx_iff_getElem?]

/-- The first members of their kind have all keys that there are. -/
theorem mem_map_firstsBy {members : List Member} {value : Key} :
    value ∈ (firstsBy key members).map key ↔ value ∈ members.map key := by
  constructor
  · intro mem
    obtain ⟨member, memberMem, rfl⟩ := List.mem_map.mp mem
    rw [← eraseDupsBy_eq_firstsBy] at memberMem
    exact List.mem_map_of_mem (mem_of_mem_eraseDupsBy memberMem)
  · intro mem
    obtain ⟨member, memberMem, rfl⟩ := List.mem_map.mp mem
    obtain ⟨index, lt, rfl⟩ := List.mem_iff_getElem.mp memberMem
    exact mem_map_firstsBy_of_lt lt

end

/-! ### Matches of a course -/

theorem pairs_map {Member Image : Type} (image : Member → Image) (members : List Member) :
    pairs (members.map image) = (pairs members).map (Prod.map image image) := by
  induction members with
  | nil => rfl
  | cons member members ih =>
      rw [List.map_cons, pairs, pairs, ih, List.map_append, List.map_map, List.map_map]
      rfl

theorem length_matchesInFull (threshold : Threshold) (names : List Name) :
    (matchesInFull threshold names).length =
      (pairs (names.map Name.display)).countP fun pair =>
        threshold.isExceededBy (score pair.1 pair.2) := by
  rw [matchesInFull_eq_filterMap_pairs, List.length_filterMap_eq_countP, pairs_map,
    List.countP_map]
  apply List.countP_congr
  intro pair _
  rw [compareInFull?_eq, Function.comp_apply, Prod.map_fst, Prod.map_snd]
  split_ifs with exceeds <;> simp [exceeds]

/-- The number of matches in a scope that takes a given course. -/
def matchCount (threshold : Threshold) (propagates : Bool) (course : List Occurrence) : Nat :=
  (pairs (textsOf propagates course)).countP fun pair =>
    threshold.isExceededBy (score pair.1 pair.2)

theorem SourceScope.length_matched (threshold : Threshold) (propagates : Bool)
    (scope : SourceScope) :
    ((scope.harvested propagates).matched threshold).length =
      matchCount threshold propagates scope.course := by
  have textsEq : (scope.harvested propagates).toCollection.names.map Name.display =
      textsOf propagates scope.course := by
    rw [← scope.map_text_bindings, HarvestedScope.toCollection, List.map_map]
    rfl
  rw [HarvestedScope.matched, length_matchesInFull, textsEq]
  rfl

/-! ### Totals -/

/-- Whether two results agree in all their numbers. -/
structure CheckResult.SameTotals (result result' : CheckResult) : Prop where
  filesScanned : result.filesScanned = result'.filesScanned
  filesProcessed : result.filesProcessed = result'.filesProcessed
  scopesExamined : result.scopesExamined = result'.scopesExamined
  namesHarvested : result.namesHarvested = result'.namesHarvested
  matchesFound : result.matchesFound = result'.matchesFound
  errors : result.errors = result'.errors

theorem CheckResult.SameTotals.symm {result result' : CheckResult}
    (same : result.SameTotals result') : result'.SameTotals result :=
  ⟨same.filesScanned.symm, same.filesProcessed.symm, same.scopesExamined.symm,
    same.namesHarvested.symm, same.matchesFound.symm, same.errors.symm⟩

theorem CheckResult.SameTotals.trans {result result' result'' : CheckResult}
    (same : result.SameTotals result') (same' : result'.SameTotals result'') :
    result.SameTotals result'' :=
  ⟨same.filesScanned.trans same'.filesScanned, same.filesProcessed.trans same'.filesProcessed,
    same.scopesExamined.trans same'.scopesExamined, same.namesHarvested.trans same'.namesHarvested,
    same.matchesFound.trans same'.matchesFound, same.errors.trans same'.errors⟩

/-- The numbers that files come to in whose scopes certain courses are taken; a file that
cannot be harvested has none. -/
def totalsOf (threshold : Threshold) (propagates : Bool)
    (files : List (Option (List (List Occurrence)))) : CheckResult :=
  let courses := files.flatMap (·.getD [])
  { filesScanned := files.length
    filesProcessed := files.countP (·.isSome)
    scopesExamined := courses.length
    namesHarvested := (courses.map fun course => (textsOf false course).length).sum
    matchesFound := (courses.map (matchCount threshold propagates)).sum
    errors := files.countP (·.isNone) }

theorem sameTotals_totalsOf {threshold : Threshold} {propagates : Bool}
    {files files' : List (Option (List (List Occurrence)))} (perm : files.Perm files') :
    (totalsOf threshold propagates files).SameTotals (totalsOf threshold propagates files') := by
  have coursesPerm := perm.flatMap_right (·.getD [])
  exact
    { filesScanned := perm.length_eq
      filesProcessed := perm.countP_eq _
      scopesExamined := coursesPerm.length_eq
      namesHarvested := (coursesPerm.map _).sum_eq
      matchesFound := (coursesPerm.map _).sum_eq
      errors := perm.countP_eq _ }

namespace Check

variable {tree : FileTree} {config : Config} {paths : List Path} {check : Check}

theorem map_course_sources (check : Check) (tree : FileTree) :
    (check.sources tree).map (·.course) =
      ((check.collect tree).files.map fun file =>
        (fileScopes tree file).toOption.map (List.map (·.course))).flatMap (·.getD []) := by
  rw [sources, List.map_flatMap, List.flatMap_map]
  apply List.flatMap_congr
  intro file _
  cases fileScopes tree file <;> rfl

/-- The numbers of a check follow from the courses that the scopes of its files take. -/
theorem sameTotals_result (check : Check) (tree : FileTree) :
    (check.result tree []).SameTotals
      (totalsOf check.threshold check.config.propagateNested
        ((check.collect tree).files.map fun file =>
          (fileScopes tree file).toOption.map (List.map (·.course)))) := by
  have coursesEq := check.map_course_sources tree
  have noFailure := check.threshold.countP_fails_matcher
    ((check.sources tree).map (SourceScope.harvested check.config.propagateNested))
  have someIff (file : Path) : (fileScopes tree file).isOk =
      ((fileScopes tree file).toOption.map (List.map (·.course))).isSome := by
    cases fileScopes tree file <;> rfl
  have noneIff (file : Path) : (!(fileScopes tree file).isOk) =
      ((fileScopes tree file).toOption.map (List.map (·.course))).isNone := by
    cases fileScopes tree file <;> rfl
  have matchesEq := check.matchesFound_result tree
  rw [result, check.ofHarvests_harvestFile] at matchesEq ⊢
  refine ⟨?_, ?_, ?_, ?_, ?_, ?_⟩
  · simp only [totalsOf, List.length_map]
  · simp only [totalsOf, List.countP_map, Function.comp_def, someIff]
  · simp only [totalsOf, ← coursesEq, List.length_map]
  · simp only [totalsOf, ← coursesEq, List.map_map]
    congr 1
    apply List.map_congr_left
    intro scope _
    rw [Function.comp_apply, ← scope.map_text_bindings, List.length_map]
  · refine matchesEq.trans ?_
    simp only [totalsOf, ← coursesEq, List.map_map]
    congr 1
    apply List.map_congr_left
    intro scope _
    exact scope.length_matched _ _
  · simp only [totalsOf, noFailure, Nat.add_zero, List.countP_map, Function.comp_def, noneIff]

/-! ### Files of a check -/

theorem files_collect (prepared : prepare tree config paths = .ok check) :
    (check.collect tree).files = firstsBy tree.resolve (filesOf tree config paths) := by
  obtain ⟨threshold, -, -, rfl⟩ := prepare_eq_ok_iff.mp prepared
  have sameEq : (fun left right : Path => tree.placeOf left == tree.placeOf right) =
      fun left right => tree.resolve left == tree.resolve right := by
    funext left right
    rw [Bool.eq_iff_iff, beq_iff_eq, beq_iff_eq, FileTree.resolve, FileTree.resolve,
      Path.mk.injEq]
    simp
  rw [files_collect_eq_keepFirst, keepFirst_eq, sameEq, eraseDupsBy_eq_firstsBy]

theorem nodup_map_resolve_collect (check : Check) (tree : FileTree) :
    ((check.collect tree).files.map tree.resolve).Nodup := by
  apply List.Nodup.of_map Path.names
  rw [List.map_map]
  exact nodup_map_placeOf_keepFirst tree _

theorem exists_find_of_mem_ofFolder {root file : Path}
    (mem : file ∈ (Scan.ofFolder tree config root).files) :
    ∃ content, tree.find file = .ok (.file content) := by
  rw [Scan.ofFolder] at mem
  split at mem
  · rw [List.mem_mergeSort] at mem
    obtain ⟨entry, entryMem, rfl⟩ := List.mem_map.mp mem
    obtain ⟨names, -, sizeEq⟩ := List.mem_filterMap.mp (List.mem_filter.mp entryMem).1
    obtain ⟨size, sized, rfl⟩ := Option.map_eq_some_iff.mp sizeEq
    rw [Scan.sizeOf?] at sized
    split at sized
    · exact ⟨_, ‹_›⟩
    · cases sized
  · exact absurd mem List.not_mem_nil

/-- All files that existing paths lead to can be found. -/
theorem exists_find_of_mem_filesOf (allExist : ∀ path ∈ paths, tree.exists? path = true)
    {file : Path} (mem : file ∈ filesOf tree config paths) :
    ∃ node, tree.find file = .ok node := by
  obtain ⟨path, pathMem, fileMem⟩ := List.mem_flatMap.mp mem
  split_ifs at fileMem with folder
  · obtain ⟨content, found⟩ := exists_find_of_mem_ofFolder fileMem
    exact ⟨_, found⟩
  · rw [List.mem_singleton.mp fileMem]
    have exist := allExist path pathMem
    rw [FileTree.exists?] at exist
    cases found : tree.find path with
    | ok node => exact ⟨node, rfl⟩
    | error fault => simp [found] at exist

theorem filesOf_singleton_subset {path : Path} (mem : path ∈ paths) :
    filesOf tree config [path] ⊆ filesOf tree config paths := by
  intro file fileMem
  obtain ⟨other, otherMem, found⟩ := List.mem_flatMap.mp fileMem
  rw [List.mem_singleton] at otherMem
  subst otherMem
  exact List.mem_flatMap.mpr ⟨other, mem, found⟩

/-- Whether other paths lead to every file that a path leads to. -/
def IsCovered (tree : FileTree) (config : Config) (others : List Path) (path : Path) : Prop :=
  ∀ file ∈ filesOf tree config [path],
    tree.resolve file ∈ (filesOf tree config others).map tree.resolve

/-- Paths of which others lack only those that they cover lead to no place but theirs. -/
theorem map_resolve_filesOf_subset {paths' : List Path}
    (covered : ∀ path ∈ paths, path ∉ paths' → IsCovered tree config paths' path) :
    (filesOf tree config paths).map tree.resolve ⊆
      (filesOf tree config paths').map tree.resolve := by
  intro place mem
  obtain ⟨file, fileMem, rfl⟩ := List.mem_map.mp mem
  obtain ⟨path, pathMem, fileMem⟩ := List.mem_flatMap.mp fileMem
  by_cases listed : path ∈ paths'
  · exact List.mem_map_of_mem (List.mem_flatMap.mpr ⟨path, listed, fileMem⟩)
  · apply covered path pathMem listed
    exact List.mem_flatMap.mpr ⟨path, List.mem_singleton_self path, fileMem⟩

/-- The courses that the scopes of files take follow from what stands at the places of the
files. -/
theorem map_courses_eq_map_resolve {files : List Path}
    (found : ∀ file ∈ files, ∃ node, tree.find file = .ok node) :
    files.map (fun file => (fileScopes tree file).toOption.map (List.map (·.course))) =
      (files.map tree.resolve).map fun place =>
        (tree.root.at? place.names).bind Node.courses? := by
  rw [List.map_map]
  apply List.map_congr_left
  intro file mem
  obtain ⟨node, foundFile⟩ := found file mem
  have stands : tree.root.at? (tree.resolve file).names = some node :=
    FileTree.at?_placeOf_of_find foundFile
  rw [Function.comp_apply, stands]
  exact map_course_fileScopes foundFile

/-- The numbers of a check follow from what stands at the places of its files. -/
theorem sameTotals_result_of_prepared (prepared : prepare tree config paths = .ok check) :
    (check.result tree []).SameTotals
      (totalsOf check.threshold check.config.propagateNested
        (((check.collect tree).files.map tree.resolve).map fun place =>
          (tree.root.at? place.names).bind Node.courses?)) := by
  obtain ⟨-, -, allExist, -⟩ := prepare_eq_ok_iff.mp prepared
  have found : ∀ file ∈ (check.collect tree).files, ∃ node, tree.find file = .ok node := by
    intro file mem
    rw [files_collect prepared, ← eraseDupsBy_eq_firstsBy] at mem
    exact exists_find_of_mem_filesOf allExist (mem_of_mem_eraseDupsBy mem)
  rw [← map_courses_eq_map_resolve found]
  exact check.sameTotals_result tree

theorem map_resolve_collect_perm {paths' : List Path} {check' : Check}
    (prepared : prepare tree config paths = .ok check)
    (prepared' : prepare tree config paths' = .ok check')
    (covered : ∀ path ∈ paths', path ∉ paths → IsCovered tree config paths path)
    (covered' : ∀ path ∈ paths, path ∉ paths' → IsCovered tree config paths' path) :
    ((check.collect tree).files.map tree.resolve).Perm
      ((check'.collect tree).files.map tree.resolve) := by
  rw [List.perm_ext_iff_of_nodup (check.nodup_map_resolve_collect tree)
    (check'.nodup_map_resolve_collect tree)]
  intro place
  rw [files_collect prepared, files_collect prepared', mem_map_firstsBy, mem_map_firstsBy]
  constructor
  · exact fun mem => map_resolve_filesOf_subset covered' mem
  · exact fun mem => map_resolve_filesOf_subset covered mem

end Check

/-! ### Checks -/

/-- Of the files that its paths lead to, a check collects the first for every place; the
places are those of the paths that lead to no folder and of the files that scans of the others
find.  Another check whose paths are the same in any order and number has the same totals, and
so has one with more paths or fewer, as long as each check covers the paths that it lacks.  Both
checks end with their results, or both with the same error, which only the number of workers can
cause. -/
theorem each_place_checked_once {tree : FileTree} {config : Config} {paths : List Path}
    {check : Check} (prepared : Check.prepare tree config paths = .ok check) :
    let files := (check.collect tree).files
    files = firstsBy tree.resolve (Check.filesOf tree config paths) ∧
      (files.map tree.resolve).Nodup ∧
      (∀ place, place ∈ files.map tree.resolve ↔
        (∃ path ∈ paths, tree.isFolder path = false ∧ tree.resolve path = place) ∨
          ∃ path ∈ paths, tree.isFolder path = true ∧
            ∃ file ∈ (Scan.ofFolder tree config path).files, tree.resolve file = place) ∧
      ∀ paths' check', Check.prepare tree config paths' = .ok check' →
        (∀ path ∈ paths', path ∉ paths → Check.IsCovered tree config paths path) →
        (∀ path ∈ paths, path ∉ paths' → Check.IsCovered tree config paths' path) →
        (check.run tree []).map Finished.result = check.ending tree (check.result tree []) ∧
          (check'.run tree []).map Finished.result = check.ending tree (check'.result tree []) ∧
          (check.result tree []).SameTotals (check'.result tree []) := by
  intro files
  have filesEq : files = _ := Check.files_collect prepared
  refine ⟨filesEq, check.nodup_map_resolve_collect tree, fun place => ?_,
    fun paths' check' prepared' covered covered' => ?_⟩
  · rw [filesEq, mem_map_firstsBy, List.mem_map]
    constructor
    · rintro ⟨file, mem, rfl⟩
      obtain ⟨path, pathMem, fileMem⟩ := List.mem_flatMap.mp mem
      split_ifs at fileMem with folder
      · exact Or.inr ⟨path, pathMem, folder, file, fileMem, rfl⟩
      · rw [List.mem_singleton.mp fileMem]
        exact Or.inl ⟨path, pathMem, Bool.eq_false_iff.mpr folder, rfl⟩
    · rintro (⟨path, pathMem, noFolder, rfl⟩ | ⟨path, pathMem, folder, file, fileMem, rfl⟩)
      · refine ⟨path, List.mem_flatMap.mpr ⟨path, pathMem, ?_⟩, rfl⟩
        simp [noFolder]
      · refine ⟨file, List.mem_flatMap.mpr ⟨path, pathMem, ?_⟩, rfl⟩
        simpa [folder] using fileMem
  · have same := Check.sameTotals_result_of_prepared prepared
    have same' := Check.sameTotals_result_of_prepared prepared'
    have placesPerm := Check.map_resolve_collect_perm prepared prepared' covered covered'
    have ends' := check'.map_result_run tree []
    obtain ⟨threshold, valid, -, rfl⟩ := Check.prepare_eq_ok_iff.mp prepared
    obtain ⟨threshold', valid', -, rfl⟩ := Check.prepare_eq_ok_iff.mp prepared'
    obtain rfl : threshold = threshold' := Except.ok.inj (valid.symm.trans valid')
    have countEq := placesPerm.length_eq
    rw [List.length_map, List.length_map] at countEq
    refine ⟨Check.map_result_run _ tree [], ?_,
      same.trans ((sameTotals_totalsOf (placesPerm.map _)).trans same'.symm)⟩
    -- Either check has files just if the other one has.
    simp only [ends', Check.ending, ← List.length_eq_zero_iff, countEq]

/-! ### A folder and a link -/

/-- A folder with a source in it, and a link to the source. -/
def linkedTree : FileTree :=
  { root := .folder
      [("src", .folder [("a.py", .file pairSource.toUTF8), ("notes.txt", .file .empty)]),
        ("b.py", .link { names := ["src", "a.py"] })] }

/-- A check of the folder alone. -/
def folderCheck : Check :=
  { pairCheck with paths := [{ names := ["src"] }] }

/-- A check of the link, of the folder, which is given twice, and of the source by a detour. -/
def linkCheck : Check :=
  { folderCheck with
    paths :=
      [{ names := ["b.py"] }, { names := ["src"] }, { names := ["src", "..", "src", "a.py"] },
        { names := ["src"] }] }

/-- What the folder holds. -/
theorem find_linkedTree_folder :
    linkedTree.find { names := ["src"] } =
      .ok (.folder [("a.py", .file pairSource.toUTF8), ("notes.txt", .file .empty)]) :=
  FileTree.find_of_at? rfl nofun (by decide)

/-- The source is reached along its names, and so are the others of its kind. -/
theorem follow_linkedTree_source (links : Nat) :
    linkedTree.follow links [] ["src", "a.py"] = .ok ["src", "a.py"] :=
  FileTree.follow_of_at? links rfl nofun (by decide)

theorem follow_linkedTree_link :
    linkedTree.follow mostLinks [] ["b.py"] = .ok ["src", "a.py"] := by
  have held : linkedTree.root.child? "b.py" = some (.link { names := ["src", "a.py"] }) := rfl
  exact (FileTree.follow_along rfl held (by decide) (by decide)).trans
    (follow_linkedTree_source 39)

theorem follow_linkedTree_detour :
    linkedTree.follow mostLinks [] ["src", "..", "src", "a.py"] = .ok ["src", "a.py"] :=
  calc
    linkedTree.follow mostLinks [] ["src", "..", "src", "a.py"]
    _ = linkedTree.follow mostLinks ["src"] ["..", "src", "a.py"] :=
      FileTree.follow_into rfl rfl nofun (by decide) (by decide)
    _ = linkedTree.follow mostLinks [] ["src", "a.py"] := FileTree.follow_up rfl
    _ = .ok ["src", "a.py"] := follow_linkedTree_source mostLinks

theorem files_ofFolder_linkedTree :
    (Scan.ofFolder linkedTree {} { names := ["src"] }).files = [{ names := ["src", "a.py"] }] := by
  have wanted : Scan.isWanted {} "a.py" = true := by decide
  have unwanted : Scan.isWanted {} "notes.txt" = false := by decide
  have found : linkedTree.find { names := ["src", "a.py"] } = .ok (.file pairSource.toUTF8) :=
    FileTree.find_of_at? rfl nofun (by decide)
  have fits : (Scan.sizeLimit {}).geInt pairSource.utf8ByteSize = true := by decide +kernel
  rw [Scan.ofFolder, find_linkedTree_folder]
  simp [Scan.entryLeaves, wanted, unwanted, Scan.sizeOf?, found, fits, Path.join,
    Path.isAbsolute]

theorem find_linkedTree_link :
    linkedTree.find { names := ["b.py"] } = .ok (.file pairSource.toUTF8) :=
  FileTree.find_eq_ok_iff.mpr ⟨_, follow_linkedTree_link, rfl⟩

theorem find_linkedTree_detour :
    linkedTree.find { names := ["src", "..", "src", "a.py"] } = .ok (.file pairSource.toUTF8) :=
  FileTree.find_eq_ok_iff.mpr ⟨_, follow_linkedTree_detour, rfl⟩

theorem exists?_linkedTree {path : Path} (mem : path ∈ linkCheck.paths) :
    linkedTree.exists? path = true := by
  simp only [linkCheck, List.mem_cons, List.not_mem_nil, or_false] at mem
  rcases mem with rfl | rfl | rfl | rfl
  · exact FileTree.exists?_of_find find_linkedTree_link
  · exact FileTree.exists?_of_find find_linkedTree_folder
  · exact FileTree.exists?_of_find find_linkedTree_detour
  · exact FileTree.exists?_of_find find_linkedTree_folder

theorem prepare_folderCheck : Check.prepare linkedTree {} folderCheck.paths = .ok folderCheck := by
  refine Check.prepare_eq_ok_iff.mpr ⟨_, Config.validate_float pairCheck.threshold, ?_, rfl⟩
  exact List.forall_mem_singleton.mpr (exists?_linkedTree (by simp [linkCheck]))

theorem prepare_linkCheck : Check.prepare linkedTree {} linkCheck.paths = .ok linkCheck :=
  Check.prepare_eq_ok_iff.mpr
    ⟨_, Config.validate_float pairCheck.threshold, fun _ => exists?_linkedTree, rfl⟩

theorem filesOf_folderCheck :
    Check.filesOf linkedTree {} folderCheck.paths = [{ names := ["src", "a.py"] }] := by
  have folder : linkedTree.isFolder { names := ["src"] } = true := by
    rw [FileTree.isFolder, find_linkedTree_folder]
  simp [Check.filesOf, folderCheck, folder, files_ofFolder_linkedTree]

theorem filesOf_linkCheck :
    Check.filesOf linkedTree {} linkCheck.paths =
      [{ names := ["b.py"] }, { names := ["src", "a.py"] },
        { names := ["src", "..", "src", "a.py"] }, { names := ["src", "a.py"] }] := by
  have folder : linkedTree.isFolder { names := ["src"] } = true := by
    rw [FileTree.isFolder, find_linkedTree_folder]
  have link := FileTree.isFolder_eq_false_of_find find_linkedTree_link
  have detour := FileTree.isFolder_eq_false_of_find find_linkedTree_detour
  simp [Check.filesOf, linkCheck, folder, link, detour, files_ofFolder_linkedTree]

/-- All files that the checks come across are the source. -/
theorem placeOf_linkedTree {path : Path}
    (mem : path ∈ Check.filesOf linkedTree {} linkCheck.paths) :
    linkedTree.placeOf path = ["src", "a.py"] := by
  have source : linkedTree.placeOf { names := ["src", "a.py"] } = ["src", "a.py"] :=
    FileTree.placeOf_eq_of_follow (follow_linkedTree_source mostLinks)
  rw [filesOf_linkCheck] at mem
  simp only [List.mem_cons, List.not_mem_nil, or_false] at mem
  rcases mem with rfl | rfl | rfl | rfl
  · exact FileTree.placeOf_eq_of_follow follow_linkedTree_link
  · exact source
  · exact FileTree.placeOf_eq_of_follow follow_linkedTree_detour
  · exact source

theorem files_folderCheck :
    (folderCheck.collect linkedTree).files = [{ names := ["src", "a.py"] }] := by
  have filesEq : Check.filesOf linkedTree folderCheck.config folderCheck.paths = _ :=
    filesOf_folderCheck
  rw [Check.files_collect_eq_keepFirst, filesEq, Check.keepFirst_eq]
  rfl

theorem files_linkCheck : (linkCheck.collect linkedTree).files = [{ names := ["b.py"] }] := by
  have filesEq : Check.filesOf linkedTree linkCheck.config linkCheck.paths = _ :=
    filesOf_linkCheck
  have samePlace := fun path mem => @placeOf_linkedTree path (filesOf_linkCheck ▸ mem)
  obtain ⟨first, others⟩ := List.forall_mem_cons.mp samePlace
  rw [Check.files_collect_eq_keepFirst, filesEq, Check.keepFirst_eq]
  exact eraseDupsBy_eq_singleton fun path mem => by rw [first, others path mem, beq_self_eq_true]

theorem isCovered_folderCheck {path : Path} (mem : path ∈ linkCheck.paths) :
    Check.IsCovered linkedTree {} folderCheck.paths path := by
  intro file fileMem
  have sourceMem : { names := ["src", "a.py"] } ∈ Check.filesOf linkedTree {} linkCheck.paths := by
    simp [filesOf_linkCheck]
  rw [filesOf_folderCheck, List.map_singleton, List.mem_singleton, FileTree.resolve,
    FileTree.resolve, placeOf_linkedTree (Check.filesOf_singleton_subset mem fileMem),
    placeOf_linkedTree sourceMem]

/-- The source is kept as it is found in the folder, or as the link that is named before it. -/
theorem each_place_checked_once_of_linked :
    Check.prepare linkedTree {} folderCheck.paths = .ok folderCheck ∧
      Check.prepare linkedTree {} linkCheck.paths = .ok linkCheck ∧
      (folderCheck.collect linkedTree).files = [{ names := ["src", "a.py"] }] ∧
      (linkCheck.collect linkedTree).files = [{ names := ["b.py"] }] ∧
      (folderCheck.run linkedTree []).map Finished.result =
        .ok (folderCheck.result linkedTree []) ∧
      (linkCheck.run linkedTree []).map Finished.result = .ok (linkCheck.result linkedTree []) ∧
      (folderCheck.result linkedTree []).SameTotals (linkCheck.result linkedTree []) := by
  have lacksNothing : ∀ path ∈ folderCheck.paths, path ∉ linkCheck.paths →
      Check.IsCovered linkedTree {} linkCheck.paths path := by
    intro path mem lacking
    exact absurd (List.mem_singleton.mp mem ▸ by decide) lacking
  obtain ⟨filesEq, -, -, sameTotals⟩ := each_place_checked_once prepare_folderCheck
  obtain ⟨ends, ends', same⟩ :=
    sameTotals _ _ prepare_linkCheck (fun _ mem _ => isCovered_folderCheck mem) lacksNothing
  have finished (result : CheckResult) : folderCheck.ending linkedTree result = .ok result :=
    Check.ending_of_default rfl linkedTree result
  exact ⟨prepare_folderCheck, prepare_linkCheck, files_folderCheck, files_linkCheck,
    ends.trans (finished _), ends'.trans (finished _), same⟩

end Lookalike
