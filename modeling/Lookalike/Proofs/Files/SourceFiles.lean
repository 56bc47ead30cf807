import Lookalike.Proofs.Files.Candidates
import Lookalike.Proofs.Number.Scaling

/-!
# A scan finds the source files

A scan goes down the folders below its root and passes over those with excluded names, so that
what it comes across stands behind folders alone, none of them excluded.  Of that it keeps the
files, and the links to files, that have a wanted extension and a size within the limit.  Each
stands at a path of its own, and the paths come in strictly increasing order: the order in
which folders are listed makes no difference.
-/

namespace Lookalike

/-! ### The order of paths -/

namespace Path

/-- The parts of a path: its root, if it begins at one, and its names. -/
def parts (path : Path) : List String :=
  if path.isAbsolute then path.root :: path.names else path.names

/-- Whether a part of a path comes before another one, letter by letter. -/
def PartBefore (earlier later : String) : Prop :=
  List.Lex (fun letter letter' : Char => letter.toNat < letter'.toNat) earlier.toList later.toList

/-- Whether a path comes before another one, part by part. -/
def Before (earlier later : Path) : Prop :=
  List.Lex PartBefore earlier.parts later.parts

theorem partBefore_eq_lt : PartBefore = String.instLT.lt := rfl

theorem before_iff {earlier later : Path} (sameRoot : earlier.root = later.root) :
    earlier.Before later ↔ List.Lex String.instLT.lt earlier.names later.names := by
  rw [Before, parts, parts, isAbsolute, isAbsolute, sameRoot, partBefore_eq_lt]
  split_ifs
  · rw [List.lex_cons_iff]
  · rfl

theorem Before.asymm {earlier later : Path} (before : earlier.Before later) :
    ¬ later.Before earlier := by
  rw [Before, partBefore_eq_lt] at *
  exact List.lt_asymm before

end Path

namespace Scan

variable {tree : FileTree} {config : Config} {root : Path}

theorem isBefore_trans (first second third : Path) (le : isBefore first second = true)
    (le' : isBefore second third = true) : isBefore first third = true := by
  rw [isBefore, decide_eq_true_eq] at *
  exact List.le_trans le le'

theorem isBefore_total (left right : Path) :
    (isBefore left right || isBefore right left) = true := by
  rw [isBefore, isBefore, Bool.or_eq_true, decide_eq_true_eq, decide_eq_true_eq]
  exact List.le_total left.names right.names

theorem before_of_isBefore {earlier later : Path} (sameRoot : earlier.root = later.root)
    (le : isBefore earlier later = true) (ne : earlier ≠ later) : earlier.Before later := by
  rw [isBefore, decide_eq_true_eq] at le
  rw [Path.before_iff sameRoot]
  by_contra notLess
  apply ne
  have sameNames : earlier.names = later.names := List.le_antisymm le notLess
  cases earlier
  cases later
  exact congrArg₂ Path.mk sameRoot sameNames

/-! ### The size limit -/

/-- Whether a size in bytes is at most a number of megabytes.  The product of a float is exact, or
it is past the format's end and allows any size. -/
def IsWithin (size : ℕ) : Number → Prop
  | .int megabytes => (size : ℤ) ≤ megabytes * 1024 * 1024
  | .float (.finite megabytes) =>
      (size : ℚ) ≤ megabytes * 1024 * 1024 ∨ 2 ^ (1024 : ℤ) ≤ megabytes * 1024 * 1024
  | .float .negativeZero => size = 0
  | .float (.infinity negative) => negative = false
  | .float .nan => False

theorem geInt_sizeLimit {size : ℕ} (representable : config.maxFileSize.IsRepresentable) :
    (sizeLimit config).geInt size = true ↔ IsWithin size config.maxFileSize := by
  rw [sizeLimit]
  cases limitEq : config.maxFileSize with
  | int megabytes => simp [Number.scale, Number.geInt, IsWithin, megabyte, mul_assoc]
  | float megabytes =>
      rw [limitEq] at representable
      rw [Number.scale, Number.geInt, Int.cast_natCast]
      cases megabytes with
      | nan => exact iff_of_false Bool.false_ne_true id
      | infinity negative =>
          cases negative with
          | false => exact iff_of_true rfl rfl
          | true => exact iff_of_false Bool.false_ne_true Bool.true_eq_false.mp
      | negativeZero =>
          have zeroEq : (Binary64.finite size).le (Binary64.negativeZero.scale megabyte) =
            (Binary64.finite size).le (.finite 0) := rfl
          rw [zeroEq, Binary64.le_finite, IsWithin]
          exact_mod_cast Nat.le_zero
      | finite megabytes =>
          have megabyteEq : megabyte = 2 ^ 20 := rfl
          rw [megabyteEq, Binary64.le_scale_two_pow representable 20 (Nat.cast_nonneg size),
            IsWithin, mul_assoc]
          norm_num

/-! ### Source files -/

/-- What is to be found by a scan from a root: an entry that is neither a folder nor leads to
one, that is reached from the root through folders alone, none of whose names is excluded, and
that has a wanted extension and a size within the limit. -/
structure IsSourceFile (tree : FileTree) (config : Config) (root : Path) (outer : List String)
    (name : String) : Prop where
  stands : ∃ top node, tree.find root = .ok top ∧ top.at? (outer ++ [name]) = some node ∧
    ∀ entries, node ≠ .folder entries
  leadsToNoFolder : tree.isFolder (root.join { names := outer ++ [name] }) = false
  included : ∀ above ∈ outer, above ∉ config.excludedDirectories
  wanted : ∃ extension ∈ config.extensions, IsExtension name.toList extension.toList
  fits : ∃ content, tree.find (root.join { names := outer ++ [name] }) = .ok (.file content) ∧
    IsWithin content.size config.maxFileSize

/-- The names of what a scan comes across and keeps. -/
def kept (tree : FileTree) (config : Config) (root : Path) (entries : List (String × Node)) :
    List (List String) :=
  (entryLeaves config.excludedDirectories entries).filter fun names =>
    ((sizeOf? tree (root.join { names := names })).any fun size : ℕ =>
        (sizeLimit config).geInt size) &&
      isWanted config (names.getLast?.getD "")

theorem map_filter_filterMap {α β : Type} (size? : α → Option β) (fits : β → Bool)
    (candidates : List α) :
    ((candidates.filterMap fun names => (size? names).map fun size => (names, size)).filter
        fun entry => fits entry.2).map Prod.fst =
      candidates.filter fun names => (size? names).any fits := by
  induction candidates with
  | nil => rfl
  | cons names candidates ih =>
      cases sizeEq : size? names with
      | none => simp [sizeEq, ih]
      | some size => cases fitsEq : fits size <;> simp [sizeEq, fitsEq, ih]

theorem files_ofFolder {entries : List (String × Node)}
    (stands : tree.find root = .ok (.folder entries)) :
    (ofFolder tree config root).files =
      ((kept tree config root entries).map fun names =>
        root.join { names := names }).mergeSort isBefore := by
  simp only [ofFolder, stands]
  rw [kept, ← List.filter_filter, ← map_filter_filterMap, List.map_map]
  rfl

theorem sizeOf?_any {path : Path} {fits : ℕ → Bool} :
    (sizeOf? tree path).any fits = true ↔
      ∃ content, tree.find path = .ok (.file content) ∧ fits content.size = true := by
  rw [sizeOf?]
  split <;> simp_all

variable {entries : List (String × Node)}

theorem hasDistinctNames_of_find {path : Path} {node : Node}
    (distinct : tree.root.hasDistinctNames = true) (found : tree.find path = .ok node) :
    node.hasDistinctNames = true := by
  rcases FileTree.find_eq_ok_iff.mp found with ⟨place, -, stands⟩
  exact Node.hasDistinctNames_of_at? distinct stands

theorem concat_mem_kept {outer : List String} {name : String}
    (distinct : tree.root.hasDistinctNames = true)
    (representable : config.maxFileSize.IsRepresentable)
    (found : tree.find root = .ok (.folder entries)) :
    outer ++ [name] ∈ kept tree config root entries ↔
      IsSourceFile tree config root outer name := by
  rw [kept, List.mem_filter, concat_mem_entryLeaves (hasDistinctNames_of_find distinct found),
    Bool.and_eq_true, sizeOf?_any, List.getLast?_concat, Option.getD_some, isWanted_iff]
  simp only [geInt_sizeLimit representable]
  constructor
  · rintro ⟨⟨included, node, stands, noFolder⟩, ⟨content, foundFile, fits⟩, wanted⟩
    exact {
      stands := ⟨_, node, found, stands, noFolder⟩
      leadsToNoFolder := FileTree.isFolder_eq_false_of_find foundFile
      included := included
      wanted := wanted
      fits := ⟨content, foundFile, fits⟩ }
  · rintro ⟨⟨top, node, found', stands, noFolder⟩, -, included, wanted, fits⟩
    rw [found, Except.ok.injEq] at found'
    subst found'
    exact ⟨⟨included, node, stands, noFolder⟩, fits, wanted⟩

theorem nodup_kept (distinct : tree.root.hasDistinctNames = true)
    (found : tree.find root = .ok (.folder entries)) :
    (kept tree config root entries).Nodup :=
  (nodup_leaves _ (.folder entries) (hasDistinctNames_of_find distinct found)).filter _

theorem join_injective (root : Path) :
    Function.Injective fun names => root.join { names := names } := by
  intro names names' same
  simp only [Path.join, Path.isAbsolute] at same
  simpa using same

theorem files_eq_nil (noFolder : ∀ entries, tree.find root ≠ .ok (.folder entries)) :
    (ofFolder tree config root).files = [] := by
  rw [ofFolder]
  split
  · exact absurd ‹_› (noFolder _)
  · rfl

theorem mem_files_iff (distinct : tree.root.hasDistinctNames = true)
    (representable : config.maxFileSize.IsRepresentable) {path : Path} :
    path ∈ (ofFolder tree config root).files ↔
      ∃ outer name, path = root.join { names := outer ++ [name] } ∧
        IsSourceFile tree config root outer name := by
  by_cases isFolder : ∃ entries, tree.find root = .ok (.folder entries)
  · rcases isFolder with ⟨entries, found⟩
    rw [files_ofFolder found, List.mem_mergeSort, List.mem_map]
    constructor
    · rintro ⟨names, mem, rfl⟩
      rcases List.eq_nil_or_concat' names with rfl | ⟨outer, name, rfl⟩
      · exact absurd (List.mem_of_mem_filter mem) nil_notMem_entryLeaves
      · exact ⟨outer, name, rfl, (concat_mem_kept distinct representable found).mp mem⟩
    · rintro ⟨outer, name, rfl, isSourceFile⟩
      exact ⟨outer ++ [name], (concat_mem_kept distinct representable found).mpr isSourceFile, rfl⟩
  · rw [not_exists] at isFolder
    rw [files_eq_nil isFolder]
    constructor
    · intro mem
      cases mem
    · rintro ⟨outer, name, -, isSourceFile⟩
      rcases isSourceFile.stands with ⟨top, node, found, stands, -⟩
      rcases exists_folder_of_at?_concat stands with ⟨entries, rfl⟩
      exact absurd found (isFolder entries)

theorem pairwise_files (distinct : tree.root.hasDistinctNames = true) :
    (ofFolder tree config root).files.Pairwise Path.Before := by
  by_cases isFolder : ∃ entries, tree.find root = .ok (.folder entries)
  · rcases isFolder with ⟨entries, found⟩
    have sorted := List.pairwise_mergeSort isBefore_trans isBefore_total
      ((kept tree config root entries).map fun names => root.join { names := names })
    have nodup : (((kept tree config root entries).map fun names =>
        root.join { names := names }).mergeSort isBefore).Nodup :=
      List.nodup_mergeSort.mpr ((nodup_kept distinct found).map (join_injective root))
    rw [files_ofFolder found]
    refine (sorted.and nodup).imp_of_mem ?_
    rintro earlier later mem mem' ⟨le, ne⟩
    simp only [List.mem_mergeSort, List.mem_map] at mem mem'
    rcases mem with ⟨names, -, rfl⟩
    rcases mem' with ⟨names', -, rfl⟩
    exact before_of_isBefore rfl le ne
  · rw [not_exists] at isFolder
    rw [files_eq_nil isFolder]
    exact List.Pairwise.nil

theorem IsSourceFile.of_relisted {other : FileTree} {outer : List String} {name : String}
    (isSourceFile : IsSourceFile tree config root outer name)
    (distinct : tree.root.hasDistinctNames = true) (relisted : tree.Relisted other) :
    IsSourceFile other config root outer name := by
  rcases isSourceFile with
    ⟨⟨top, node, foundTop, stands, noFolder⟩, -, included, wanted, content, foundFile, fits⟩
  rcases relisted.exists_find distinct foundTop with ⟨top', foundTop', sameTop⟩
  rcases sameTop.exists_at? (hasDistinctNames_of_find distinct foundTop) stands with
    ⟨node', stands', sameNode⟩
  rcases relisted.exists_find distinct foundFile with ⟨file, foundFile', sameFile⟩
  cases sameFile
  exact {
    stands := by
      refine ⟨top', node', foundTop', stands', ?_⟩
      rintro entries rfl
      cases sameNode
      exact noFolder _ rfl
    leadsToNoFolder := FileTree.isFolder_eq_false_of_find foundFile'
    included := included
    wanted := wanted
    fits := ⟨content, foundFile', fits⟩ }

/-- Scanning a tree finds the source files, each once and in strictly increasing order, and
listing the folders of the tree in another order changes nothing. -/
theorem finds_source_files (tree : FileTree) (config : Config) (root : Path)
    (distinct : tree.root.hasDistinctNames = true)
    (representable : config.maxFileSize.IsRepresentable) :
    (ofFolder tree config root).files.Pairwise Path.Before ∧
      (ofFolder tree config root).files.Nodup ∧
      (∀ path, path ∈ (ofFolder tree config root).files ↔
        ∃ outer name, path = root.join { names := outer ++ [name] } ∧
          IsSourceFile tree config root outer name) ∧
      ∀ other, tree.Relisted other →
        (ofFolder other config root).files = (ofFolder tree config root).files := by
  have nodup : ∀ {files : List Path}, files.Pairwise Path.Before → files.Nodup := by
    intro files increasing
    refine increasing.imp fun before => ?_
    rintro rfl
    exact before.asymm before
  refine ⟨pairwise_files distinct, nodup (pairwise_files distinct),
    fun path => mem_files_iff distinct representable, fun other relisted => ?_⟩
  have distinct' := relisted.root.hasDistinctNames distinct
  -- Two strictly increasing lists are equal as soon as they have the same members.
  refine List.Perm.eq_of_pairwise (fun earlier later _ _ before before' =>
    absurd before' before.asymm) (pairwise_files distinct') (pairwise_files distinct) ?_
  rw [List.perm_ext_iff_of_nodup (nodup (pairwise_files distinct'))
    (nodup (pairwise_files distinct))]
  intro path
  rw [mem_files_iff distinct' representable, mem_files_iff distinct representable]
  constructor
  · rintro ⟨outer, name, rfl, isSourceFile⟩
    exact ⟨outer, name, rfl, isSourceFile.of_relisted distinct' relisted.symm⟩
  · rintro ⟨outer, name, rfl, isSourceFile⟩
    exact ⟨outer, name, rfl, isSourceFile.of_relisted distinct relisted⟩

/-- A folder with an excluded name.  In it are a source, links to it, to a folder and to nothing,
a folder with the name of a source, and an excluded folder. -/
def buildTree : FileTree :=
  { root := .folder
      [("build", .folder
        [("lib", .folder [("b.py", .file .empty), ("dist", .folder [("old.py", .file .empty)])]),
          ("shared", .link { names := ["lib"] }),
          ("main.py", .link { names := ["lib", "b.py"] }),
          ("lost.py", .link { names := ["nowhere"] }),
          ("c.py", .folder [])])] }

theorem follow_buildTree_link :
    buildTree.follow mostLinks [] ["build", "main.py"] = .ok ["build", "lib", "b.py"] := by
  have held : (buildTree.root.entries[0].2).child? "main.py" =
      some (.link { names := ["lib", "b.py"] }) := rfl
  calc
    buildTree.follow mostLinks [] ["build", "main.py"]
    _ = buildTree.follow mostLinks ["build"] ["main.py"] :=
      FileTree.follow_into rfl rfl nofun (by decide) (by decide)
    _ = buildTree.follow 39 ["build"] ["lib", "b.py"] :=
      FileTree.follow_along rfl held (by decide) (by decide)
    _ = .ok ["build", "lib", "b.py"] := FileTree.follow_of_at? 39 rfl nofun (by decide)

/-- The link to the source is found, the source in the excluded folder and the folder that is
named like a source are not, although the root has an excluded name itself. -/
theorem finds_source_files_of_buildTree :
    buildTree.root.hasDistinctNames = true ∧
      ({} : Config).maxFileSize.IsRepresentable ∧
      { names := ["build", "main.py"] } ∈
        (ofFolder buildTree {} { names := ["build"] }).files ∧
      { names := ["build", "lib", "dist", "old.py"] } ∉
        (ofFolder buildTree {} { names := ["build"] }).files ∧
      { names := ["build", "c.py"] } ∉ (ofFolder buildTree {} { names := ["build"] }).files := by
  have distinct : buildTree.root.hasDistinctNames = true := by decide
  rcases finds_source_files buildTree {} { names := ["build"] } distinct trivial with
    ⟨-, -, mem_iff, -⟩
  have source_of_mem : ∀ outer name, Path.join { names := ["build"] } { names := outer ++ [name] } ∈
      (ofFolder buildTree {} { names := ["build"] }).files →
      IsSourceFile buildTree {} { names := ["build"] } outer name := by
    intro outer name mem
    rcases (mem_iff _).mp mem with ⟨outer', name', same, isSourceFile⟩
    rcases List.append_inj' (join_injective _ same) rfl with ⟨rfl, nameEq⟩
    cases nameEq
    exact isSourceFile
  have foundTop : buildTree.find { names := ["build"] } = .ok (buildTree.root.entries[0].2) :=
    FileTree.find_of_at? rfl nofun (by decide)
  refine ⟨distinct, trivial, (mem_iff _).mpr ⟨[], "main.py", rfl, ?_⟩, ?_, ?_⟩
  · have foundFile : buildTree.find { names := ["build", "main.py"] } = .ok (.file .empty) :=
      FileTree.find_eq_ok_iff.mpr ⟨_, follow_buildTree_link, rfl⟩
    exact {
      stands := ⟨_, .link { names := ["lib", "b.py"] }, foundTop, rfl, by simp⟩
      leadsToNoFolder := FileTree.isFolder_eq_false_of_find foundFile
      included := by simp
      wanted := ⟨".py", List.mem_singleton_self _, isExtension_iff.mpr (by decide)⟩
      fits := ⟨.empty, foundFile, by norm_num [IsWithin]⟩ }
  · intro mem
    have included := (source_of_mem ["lib", "dist"] "old.py" mem).included "dist" (by decide)
    exact included (by decide)
  · intro mem
    rcases (source_of_mem [] "c.py" mem).stands with ⟨top, node, found, stands, noFolder⟩
    rw [foundTop, Except.ok.injEq] at found
    subst found
    cases stands
    exact noFolder [] rfl

end Scan

end Lookalike
