import Lookalike.Scan
import Lookalike.Proofs.Files.Listing
import Mathlib.Data.List.Flatten
import Mathlib.Data.List.TakeWhile

/-!
# What a scan comes across

A scan goes down through folders and passes over those with excluded names, so that what it
comes across stands behind folders alone, none of them excluded, and no two of its ways end with
the same names.  Of what it comes across it keeps the files with a wanted extension: the last dot
of a name and the letters behind it, unless dots are all that stands before.
-/

namespace Lookalike

namespace Scan

variable {config : Config}

/-! ### Extensions -/

/-- Whether the extension of a file's name is what is given: the last dot and the letters behind
it, or nothing where all dots stand at the beginning. -/
inductive IsExtension (name : List Char) : List Char → Prop where
  | dotted {stem letters : List Char} (split : name = stem ++ '.' :: letters)
      (last : '.' ∉ letters) (named : ∃ letter ∈ stem, letter ≠ '.') :
      IsExtension name ('.' :: letters)
  | none (leading : ∀ stem letters, name = stem ++ '.' :: letters →
      ∀ letter ∈ stem, letter = '.') : IsExtension name []

theorem exists_last_dot {name : List Char} (dotted : '.' ∈ name) :
    ∃ stem letters, name = stem ++ '.' :: letters ∧ '.' ∉ letters := by
  rcases List.eq_append_cons_of_mem (List.mem_reverse.mpr dotted) with ⟨letters, stem, split, first⟩
  refine ⟨stem.reverse, letters.reverse, ?_, ?_⟩
  · rw [← List.reverse_reverse name, split]
    simp
  · simpa using first

theorem extensionOf_of_last_dot {stem letters : List Char} (last : '.' ∉ letters) :
    extensionOf (stem ++ '.' :: letters) =
      if stem.any (· ≠ '.') then '.' :: letters else [] := by
  have noDot : ∀ letter ∈ letters.reverse, decide (letter ≠ '.') = true := by
    intro letter mem
    rw [decide_eq_true_eq]
    rintro rfl
    exact last (List.mem_reverse.mp mem)
  have afterEq : (stem ++ '.' :: letters).reverse.takeWhile (· ≠ '.') = letters.reverse := by
    rw [List.reverse_append, List.reverse_cons, List.append_assoc,
      List.takeWhile_append_of_pos noDot]
    simp
  have beforeEq : (stem ++ '.' :: letters).take
      ((stem ++ '.' :: letters).length - letters.reverse.length - 1) = stem := by
    apply List.take_left'
    simp
    omega
  have shorter : letters.reverse.length < (stem ++ '.' :: letters).length := by
    simp
    omega
  simp only [extensionOf, afterEq, beforeEq, shorter, true_and, List.reverse_reverse]

theorem extensionOf_of_no_dot {name : List Char} (undotted : '.' ∉ name) :
    extensionOf name = [] := by
  have afterEq : name.reverse.takeWhile (· ≠ '.') = name.reverse := by
    rw [List.takeWhile_eq_self_iff]
    intro letter mem
    rw [decide_eq_true_eq]
    rintro rfl
    exact undotted (List.mem_reverse.mp mem)
  simp only [extensionOf, afterEq]
  simp

theorem isExtension_iff {name extension : List Char} :
    IsExtension name extension ↔ extensionOf name = extension := by
  constructor
  · intro isExtension
    cases isExtension with
    | dotted split last named =>
        rw [split, extensionOf_of_last_dot last, if_pos]
        simpa using named
    | none leading =>
        by_cases dotted : '.' ∈ name
        · rcases exists_last_dot dotted with ⟨stem, letters, rfl, last⟩
          rw [extensionOf_of_last_dot last, if_neg]
          simpa using leading stem letters rfl
        · exact extensionOf_of_no_dot dotted
  · rintro rfl
    by_cases dotted : '.' ∈ name
    · rcases exists_last_dot dotted with ⟨stem, letters, rfl, last⟩
      rw [extensionOf_of_last_dot last]
      split_ifs with named
      · exact .dotted rfl last (by simpa using named)
      · have leading : ∀ letter ∈ stem, letter = '.' := by simpa using named
        refine .none fun stem' letters' split letter mem => ?_
        -- No dot stands behind the last one, so that the letters before it include these.
        rcases List.append_eq_append_iff.mp split with ⟨gap, rfl, rest⟩ | ⟨gap, rfl, -⟩
        · cases gap with
          | nil =>
              rw [List.append_nil] at mem
              exact leading letter mem
          | cons _ gap =>
              rw [List.cons_append, List.cons.injEq] at rest
              rw [rest.2] at last
              exact absurd (List.mem_append_right _ (List.mem_cons_self ..)) last
        · exact leading letter (List.mem_append_left _ mem)
    · rw [extensionOf_of_no_dot dotted]
      refine .none fun stem letters split => ?_
      rw [split] at dotted
      exact absurd (List.mem_append_right _ (List.mem_cons_self ..)) dotted

theorem isWanted_iff {name : String} :
    isWanted config name = true ↔
      ∃ extension ∈ config.extensions, IsExtension name.toList extension.toList := by
  simp only [isWanted, List.contains_iff_mem, isExtension_iff]
  constructor
  · intro mem
    exact ⟨_, mem, (String.toList_ofList).symm⟩
  · rintro ⟨extension, mem, same⟩
    rwa [same, String.ofList_toList]

/-! ### What a scan comes across -/

/-- The names that a scan comes across from an entry on, without the entry's own name. -/
def namesBelow (excluded : List String) (entry : String × Node) : List (List String) :=
  match entry.2 with
  | .folder held => if excluded.contains entry.1 then [] else entryLeaves excluded held
  | _ => [[]]

section

variable {excluded : List String} {entries : List (String × Node)} {name : String}
  {names : List String}

theorem entryLeaves_eq_flatMap (excluded : List String) (entries : List (String × Node)) :
    entryLeaves excluded entries =
      entries.flatMap fun entry => (namesBelow excluded entry).map (entry.1 :: ·) := by
  induction entries with
  | nil => rfl
  | cons entry entries ih =>
      rcases entry with ⟨name, node⟩
      cases node <;> simp [entryLeaves, leaves, namesBelow, ih]

theorem mem_namesBelow {node : Node} :
    names ∈ namesBelow excluded (name, node) ↔
      (names = [] ∧ ∀ held, node ≠ .folder held) ∨
        ∃ held, node = .folder held ∧ name ∉ excluded ∧ names ∈ entryLeaves excluded held := by
  cases node with
  | file content => simp [namesBelow]
  | link target => simp [namesBelow]
  | folder held =>
      by_cases isExcluded : name ∈ excluded <;> simp [namesBelow, isExcluded]

theorem cons_mem_entryLeaves :
    name :: names ∈ entryLeaves excluded entries ↔
      ∃ node, (name, node) ∈ entries ∧ names ∈ namesBelow excluded (name, node) := by
  rw [entryLeaves_eq_flatMap, List.mem_flatMap]
  constructor
  · rintro ⟨⟨name', node⟩, mem, mem'⟩
    rcases List.mem_map.mp mem' with ⟨below, mem', same⟩
    cases same
    exact ⟨node, mem, mem'⟩
  · rintro ⟨node, mem, mem'⟩
    exact ⟨(name, node), mem, List.mem_map_of_mem mem'⟩

theorem nil_notMem_entryLeaves : [] ∉ entryLeaves excluded entries := by
  simp [entryLeaves_eq_flatMap]

theorem exists_folder_of_at?_concat {node reached : Node}
    (stands : node.at? (names ++ [name]) = some reached) : ∃ held, node = .folder held := by
  cases node with
  | file content => cases names <;> cases stands
  | link target => cases names <;> cases stands
  | folder held => exact ⟨held, rfl⟩

/-- What a scan comes across stands behind folders alone, of which none has an excluded name. -/
theorem concat_mem_entryLeaves (distinct : (Node.folder entries).hasDistinctNames = true)
    {outer : List String} :
    outer ++ [name] ∈ entryLeaves excluded entries ↔
      (∀ above ∈ outer, above ∉ excluded) ∧
        ∃ node, (Node.folder entries).at? (outer ++ [name]) = some node ∧
          ∀ held, node ≠ .folder held := by
  induction outer generalizing entries with
  | nil =>
      rcases Node.hasDistinctNames_folder.mp distinct with ⟨listed, -⟩
      rw [List.nil_append, cons_mem_entryLeaves]
      constructor
      · rintro ⟨node, mem, below⟩
        rcases mem_namesBelow.mp below with ⟨-, noFolder⟩ | ⟨held, -, -, below⟩
        · have held := (Node.child?_eq_some_iff listed).mpr mem
          exact ⟨by simp, node, Node.at?_cons_eq_some_iff.mpr ⟨node, held, rfl⟩, noFolder⟩
        · exact absurd below nil_notMem_entryLeaves
      · rintro ⟨-, node, stands, noFolder⟩
        rcases Node.at?_cons_eq_some_iff.mp stands with ⟨child, held, same⟩
        cases same
        exact ⟨node, Node.mem_of_child? held, mem_namesBelow.mpr (Or.inl ⟨rfl, noFolder⟩)⟩
  | cons above outer ih =>
      rcases Node.hasDistinctNames_folder.mp distinct with ⟨listed, distinctBelow⟩
      rw [List.cons_append, cons_mem_entryLeaves, List.forall_mem_cons]
      constructor
      · rintro ⟨node, mem, below⟩
        rcases mem_namesBelow.mp below with ⟨empty, -⟩ | ⟨held, rfl, included, below⟩
        · simp at empty
        · rcases (ih (distinctBelow above _ mem)).mp below with
            ⟨includedBelow, reached, stands, noFolder⟩
          have found := (Node.child?_eq_some_iff listed).mpr mem
          exact ⟨⟨included, includedBelow⟩, reached,
            Node.at?_cons_eq_some_iff.mpr ⟨_, found, stands⟩, noFolder⟩
      · rintro ⟨⟨included, includedBelow⟩, reached, stands, noFolder⟩
        rcases Node.at?_cons_eq_some_iff.mp stands with ⟨child, found, standsBelow⟩
        rcases exists_folder_of_at?_concat standsBelow with ⟨held, rfl⟩
        have mem := Node.mem_of_child? found
        have below := (ih (distinctBelow above _ mem)).mpr
          ⟨includedBelow, reached, standsBelow, noFolder⟩
        exact ⟨_, mem, mem_namesBelow.mpr (Or.inr ⟨held, rfl, included, below⟩)⟩

end

mutual

theorem nodup_leaves (excluded : List String) (node : Node)
    (distinct : node.hasDistinctNames = true) : (leaves excluded node).Nodup := by
  cases node with
  | file content => exact List.nodup_singleton []
  | link target => exact List.nodup_singleton []
  | folder entries =>
      rcases Node.hasDistinctNames_folder.mp distinct with ⟨listed, below⟩
      rw [leaves, entryLeaves_eq_flatMap, List.nodup_flatMap]
      refine ⟨fun entry mem => ?_, ?_⟩
      · have belowNodup := nodup_namesBelow excluded entries below entry mem
        exact belowNodup.map (List.cons_injective)
      · rw [List.Nodup, List.pairwise_map] at listed
        refine listed.imp fun {entry other} ne => ?_
        rw [Function.onFun, List.disjoint_left]
        intro names mem mem'
        rcases List.mem_map.mp mem with ⟨below, -, rfl⟩
        rcases List.mem_map.mp mem' with ⟨below', -, same⟩
        exact ne (List.cons.inj same).1.symm

theorem nodup_namesBelow (excluded : List String) (entries : List (String × Node))
    (distinct : ∀ name node, (name, node) ∈ entries → node.hasDistinctNames = true) :
    ∀ entry ∈ entries, (namesBelow excluded entry).Nodup := by
  cases entries with
  | nil => simp
  | cons entry entries =>
      rcases entry with ⟨name, node⟩
      rw [List.forall_mem_cons]
      constructor
      · have nodup := nodup_leaves excluded node (distinct name node (List.mem_cons_self ..))
        cases node with
        | file content => exact nodup
        | link target => exact nodup
        | folder held =>
            rw [namesBelow]
            split_ifs
            · exact List.nodup_nil
            · exact nodup
      · exact nodup_namesBelow excluded entries fun name node mem =>
          distinct name node (List.mem_cons_of_mem _ mem)

end

end Scan

end Lookalike
