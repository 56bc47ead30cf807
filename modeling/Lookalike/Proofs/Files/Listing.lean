import Lookalike.Proofs.Files.RealPlaces
import Mathlib.Data.List.Nodup

/-!
# The order in which folders are listed

A folder's entries come as a list, though only the names in it matter as long as each is there
once.  Looking up a name then finds the entry that has it, and a tree whose folders are listed
in another order holds the same at every place: what can be found by a path in one of the two
can be found in the other.
-/

namespace Lookalike

namespace Node

mutual

/-- Whether every folder, from a node on, lists each of its names once. -/
def hasDistinctNames : Node → Bool
  | folder entries => decide (entries.map Prod.fst).Nodup && haveDistinctNames entries
  | _ => true

def haveDistinctNames : List (String × Node) → Bool
  | [] => true
  | (_, node) :: entries => node.hasDistinctNames && haveDistinctNames entries

end

variable {node other : Node} {name : String} {entries others : List (String × Node)}

theorem haveDistinctNames_iff :
    haveDistinctNames entries = true ↔
      ∀ name node, (name, node) ∈ entries → node.hasDistinctNames = true := by
  induction entries with
  | nil => simp [haveDistinctNames]
  | cons entry entries ih =>
      rcases entry with ⟨name, node⟩
      rw [haveDistinctNames, Bool.and_eq_true, ih]
      simp only [List.mem_cons, Prod.mk.injEq]
      constructor
      · rintro ⟨first, rest⟩ name' node' (⟨rfl, rfl⟩ | mem)
        · exact first
        · exact rest name' node' mem
      · intro all
        exact ⟨all name node (Or.inl ⟨rfl, rfl⟩), fun name' node' mem =>
          all name' node' (Or.inr mem)⟩

theorem hasDistinctNames_folder :
    (folder entries).hasDistinctNames = true ↔
      (entries.map Prod.fst).Nodup ∧
        ∀ name node, (name, node) ∈ entries → node.hasDistinctNames = true := by
  rw [hasDistinctNames, Bool.and_eq_true, decide_eq_true_eq, haveDistinctNames_iff]

theorem mem_of_child? (held : (folder entries).child? name = some node) :
    (name, node) ∈ entries := by
  rw [child?] at held
  rcases Option.map_eq_some_iff.mp held with ⟨entry, found, rfl⟩
  have same := List.find?_some found
  rcases beq_iff_eq.mp same with rfl
  exact List.mem_of_find?_eq_some found

theorem child?_eq_some_iff (distinct : (entries.map Prod.fst).Nodup) :
    (folder entries).child? name = some node ↔ (name, node) ∈ entries := by
  refine ⟨mem_of_child?, fun mem => ?_⟩
  cases held : (folder entries).child? name with
  | none =>
      rw [child?, Option.map_eq_none_iff, List.find?_eq_none] at held
      exact absurd (beq_self_eq_true name) (held _ mem)
  | some other =>
      have entryEq := List.inj_on_of_nodup_map distinct (mem_of_child? held) mem rfl
      cases entryEq
      rfl

theorem hasDistinctNames_of_child? (distinct : node.hasDistinctNames = true)
    (held : node.child? name = some other) : other.hasDistinctNames = true := by
  cases node with
  | file content => cases held
  | link target => cases held
  | folder entries => exact (hasDistinctNames_folder.mp distinct).2 name other (mem_of_child? held)

theorem hasDistinctNames_of_at? {names : List String} (distinct : node.hasDistinctNames = true)
    (stands : node.at? names = some other) : other.hasDistinctNames = true := by
  induction names generalizing node with
  | nil =>
      cases stands
      exact distinct
  | cons name names ih =>
      rcases at?_cons_eq_some_iff.mp stands with ⟨child, held, below⟩
      exact ih (hasDistinctNames_of_child? distinct held) below

/-! ### Relisted folders -/

/-- Whether two nodes hold the same, up to the order in which their folders are listed. -/
inductive Relisted : Node → Node → Prop where
  | file (content : ByteArray) : Relisted (file content) (file content)
  | link (target : Path) : Relisted (link target) (link target)
  | folder {entries others : List (String × Node)}
      (sameNames : (entries.map Prod.fst).Perm (others.map Prod.fst))
      (sameNodes : ∀ name node other, (name, node) ∈ entries → (name, other) ∈ others →
        Relisted node other) :
      Relisted (folder entries) (folder others)

namespace Relisted

theorem symm (relisted : Relisted node other) : Relisted other node := by
  induction relisted with
  | file content => exact .file content
  | link target => exact .link target
  | folder sameNames _ ih =>
      exact .folder sameNames.symm fun name node other mem mem' => ih name other node mem' mem

theorem exists_mem (relisted : Relisted (.folder entries) (.folder others))
    (mem : (name, node) ∈ entries) : ∃ other, (name, other) ∈ others ∧ Relisted node other := by
  cases relisted with
  | folder sameNames sameNodes =>
      have listed : name ∈ others.map Prod.fst := by
        rw [← sameNames.mem_iff]
        exact List.mem_map_of_mem mem
      rcases List.mem_map.mp listed with ⟨⟨_, other⟩, mem', rfl⟩
      exact ⟨other, mem', sameNodes _ node other mem mem'⟩

theorem nodup (relisted : Relisted (.folder entries) (.folder others))
    (distinct : (entries.map Prod.fst).Nodup) : (others.map Prod.fst).Nodup := by
  cases relisted with
  | folder sameNames _ => exact sameNames.nodup_iff.mp distinct

theorem hasDistinctNames (relisted : Relisted node other)
    (distinct : node.hasDistinctNames = true) : other.hasDistinctNames = true := by
  induction relisted with
  | file content => rfl
  | link target => rfl
  | @folder entries others sameNames sameNodes ih =>
      have whole : Relisted (.folder entries) (.folder others) := .folder sameNames sameNodes
      rcases hasDistinctNames_folder.mp distinct with ⟨distinct, below⟩
      refine hasDistinctNames_folder.mpr ⟨whole.nodup distinct, ?_⟩
      intro name other mem
      rcases whole.symm.exists_mem mem with ⟨node, mem', -⟩
      exact ih name node other mem' mem (below name node mem')

theorem exists_child? {child : Node} (relisted : Relisted node other)
    (distinct : node.hasDistinctNames = true) (held : node.child? name = some child) :
    ∃ child', other.child? name = some child' ∧ Relisted child child' := by
  cases node with
  | file content => cases held
  | link target => cases held
  | folder entries =>
      cases relisted with
      | folder sameNames sameNodes =>
          have whole := Relisted.folder sameNames sameNodes
          rcases whole.exists_mem (mem_of_child? held) with ⟨child', mem, relisted'⟩
          have distinct' := whole.nodup (hasDistinctNames_folder.mp distinct).1
          exact ⟨child', (child?_eq_some_iff distinct').mpr mem, relisted'⟩

theorem exists_at? {names : List String} {reached : Node} (relisted : Relisted node other)
    (distinct : node.hasDistinctNames = true) (stands : node.at? names = some reached) :
    ∃ reached', other.at? names = some reached' ∧ Relisted reached reached' := by
  induction names generalizing node other with
  | nil =>
      cases stands
      exact ⟨other, rfl, relisted⟩
  | cons name names ih =>
      rcases at?_cons_eq_some_iff.mp stands with ⟨child, held, below⟩
      rcases relisted.exists_child? distinct held with ⟨child', held', relisted'⟩
      rcases ih relisted' (hasDistinctNames_of_child? distinct held) below with
        ⟨reached', below', relisted''⟩
      exact ⟨reached', at?_cons_eq_some_iff.mpr ⟨child', held', below'⟩, relisted''⟩

end Relisted

end Node

namespace FileTree

/-- Whether two trees hold the same, up to the order in which their folders are listed. -/
structure Relisted (tree other : FileTree) : Prop where
  root : tree.root.Relisted other.root
  home : tree.home = other.home

variable {tree other : FileTree}

theorem Relisted.symm (relisted : tree.Relisted other) : other.Relisted tree :=
  ⟨relisted.root.symm, relisted.home.symm⟩

theorem Relisted.follow_eq_ok (relisted : tree.Relisted other)
    (distinct : tree.root.hasDistinctNames = true) {links : ℕ} {place names reached : List String}
    (followed : tree.follow links place names = .ok reached) :
    other.follow links place names = .ok reached := by
  -- The walk through the other tree meets the same folders, and the same links in them.
  fun_induction follow tree links place names with
  | case1 => rwa [follow]
  | case2 links place rest entries stands ih =>
      rcases relisted.root.exists_at? distinct stands with ⟨folder, stands', same⟩
      cases same
      rw [follow]
      simp only [stands', if_true]
      exact ih followed
  | case3 => cases followed
  | case4 => cases followed
  | case5 => cases followed
  | case6 place name rest entries stands notUp short target held links ih =>
      rcases relisted.root.exists_at? distinct stands with ⟨folder, stands', same⟩
      rcases same.exists_child? (Node.hasDistinctNames_of_at? distinct stands) held with
        ⟨child, held', sameChild⟩
      cases same
      cases sameChild
      rw [follow]
      simp only [stands', notUp, short, if_false, held']
      exact ih followed
  | case7 links place name rest entries stands notUp short node noLink held ih =>
      rcases relisted.root.exists_at? distinct stands with ⟨folder, stands', same⟩
      rcases same.exists_child? (Node.hasDistinctNames_of_at? distinct stands) held with
        ⟨child, held', sameChild⟩
      cases same
      rw [follow]
      simp only [stands', notUp, short, if_false, held']
      cases sameChild with
      | link target => exact absurd rfl (noLink target)
      | file content => exact ih followed
      | folder => exact ih followed
  | case8 => cases followed
  | case9 => cases followed

theorem Relisted.exists_find (relisted : tree.Relisted other)
    (distinct : tree.root.hasDistinctNames = true) {path : Path} {node : Node}
    (found : tree.find path = .ok node) :
    ∃ node', other.find path = .ok node' ∧ node.Relisted node' := by
  rcases find_eq_ok_iff.mp found with ⟨place, followed, stands⟩
  rcases relisted.root.exists_at? distinct stands with ⟨node', stands', same⟩
  have startEq : tree.start path = other.start path := by rw [start, start, relisted.home]
  rw [startEq] at followed
  have followed' := relisted.follow_eq_ok distinct followed
  exact ⟨node', find_eq_ok_iff.mpr ⟨place, followed', stands'⟩, same⟩

end FileTree

end Lookalike
