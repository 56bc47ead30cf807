import Lookalike.Files.Tree
import Mathlib.Data.List.Perm.Subperm

/-!
# Resolving a path finds the place that following it reaches

Following a path counts the links on the way and gives up when there are too many.
Resolving a path keeps a list of the links that it is inside of, takes a link among them for
one that leads back to itself, and goes on by the names alone from there.  Where following
comes to an end, the two agree: a link takes a fixed number of links to follow, itself
included, so that none is met on its own way.  And as the links that are in progress are
distinct, there are never more of them than the tree has links.

A step along one name is told by what stands at the place.  So names that lead to something
without dots and links are followed to just that.
-/

namespace Lookalike

namespace Node

theorem at?_append (node : Node) (names names' : List String) :
    node.at? (names ++ names') = (node.at? names).bind (at? · names') := by
  induction names generalizing node with
  | nil => rfl
  | cons name names ih =>
      rw [List.cons_append, at?, at?]
      cases node.child? name with
      | none => rfl
      | some child => exact ih child

theorem at?_cons_eq_some_iff {node other : Node} {name : String} {names : List String} :
    node.at? (name :: names) = some other ↔
      ∃ child, node.child? name = some child ∧ child.at? names = some other := by
  rw [at?, Option.bind_eq_some_iff]

/-- Only folders hold anything. -/
theorem exists_entries_of_child? {node child : Node} {name : String}
    (held : node.child? name = some child) : ∃ entries, node = .folder entries := by
  cases node with
  | file content => cases held
  | link target => cases held
  | folder entries => exact ⟨entries, rfl⟩

/-! ### The links of a tree -/

mutual

/-- The places of all links, from a node on. -/
def linkPlaces : Node → List (List String)
  | file _ => []
  | link _ => [[]]
  | folder entries => linkPlacesOf entries

def linkPlacesOf : List (String × Node) → List (List String)
  | [] => []
  | (name, node) :: entries => node.linkPlaces.map (name :: ·) ++ linkPlacesOf entries

end

mutual

theorem length_linkPlaces (node : Node) : node.linkPlaces.length = node.linkCount := by
  cases node with
  | file content => rfl
  | link target => rfl
  | folder entries => exact length_linkPlacesOf entries

theorem length_linkPlacesOf (entries : List (String × Node)) :
    (linkPlacesOf entries).length = linkCounts entries := by
  cases entries with
  | nil => rfl
  | cons entry entries =>
      rw [linkPlacesOf, linkCounts, List.length_append, List.length_map,
        length_linkPlaces entry.2, length_linkPlacesOf entries]

end

mutual

theorem mem_linkPlaces_of_at? (node : Node) {place : List String} {target : Path}
    (stands : node.at? place = some (.link target)) : place ∈ node.linkPlaces := by
  cases node with
  | file content => cases place <;> simp [at?, child?] at stands
  | link other =>
      cases place with
      | nil => exact List.mem_singleton_self []
      | cons name names => simp [at?, child?] at stands
  | folder entries =>
      cases place with
      | nil => simp [at?] at stands
      | cons name names => exact mem_linkPlacesOf_of_find? entries stands

theorem mem_linkPlacesOf_of_find? (entries : List (String × Node)) {name : String}
    {names : List String} {target : Path}
    (stands : ((entries.find? (·.1 == name)).map (·.2)).bind (at? · names) =
      some (.link target)) : name :: names ∈ linkPlacesOf entries := by
  cases entries with
  | nil => simp at stands
  | cons entry entries =>
      rw [linkPlacesOf, List.mem_append]
      rw [List.find?_cons] at stands
      cases same : entry.1 == name with
      | true =>
          rw [same] at stands
          obtain rfl := beq_iff_eq.mp same
          exact Or.inl (List.mem_map_of_mem (mem_linkPlaces_of_at? entry.2 stands))
      | false =>
          rw [same] at stands
          exact Or.inr (mem_linkPlacesOf_of_find? entries stands)

end

/-- Distinct links are no more than all links. -/
theorem length_le_linkCount (node : Node) {places : List (List String)} (distinct : places.Nodup)
    (areLinks : ∀ place ∈ places, ∃ target, node.at? place = some (.link target)) :
    places.length ≤ node.linkCount := by
  rw [← length_linkPlaces]
  apply List.Subperm.length_le
  apply distinct.subperm
  intro place mem
  obtain ⟨target, stands⟩ := areLinks place mem
  exact mem_linkPlaces_of_at? node stands

end Node

namespace FileTree

variable {tree : FileTree}

/-! ### Steps -/

theorem at?_of_child? {place : List String} {entries : List (String × Node)} {name : String}
    {node : Node} (stands : tree.root.at? place = some (.folder entries))
    (held : (Node.folder entries).child? name = some node) :
    tree.root.at? (place ++ [name]) = some node := by
  rw [Node.at?_append, stands, Option.bind_some, Node.at?, held]
  rfl

section

variable {links : Nat} {place rest : List String} {entries : List (String × Node)} {name : String}

/-- Two dots lead up from a folder. -/
theorem follow_up (stands : tree.root.at? place = some (.folder entries)) :
    tree.follow links place (".." :: rest) = tree.follow links (parent place) rest := by
  rw [follow]
  simp only [stands, if_true]

/-- The name of anything but a link leads into the folder that holds it. -/
theorem follow_into {node : Node} (stands : tree.root.at? place = some (.folder entries))
    (held : (Node.folder entries).child? name = some node)
    (noLink : ∀ target, node ≠ .link target) (notUp : name ≠ "..")
    (short : name.utf8ByteSize ≤ longestName) :
    tree.follow links place (name :: rest) = tree.follow links (place ++ [name]) rest := by
  rw [follow]
  simp only [stands, notUp, if_false, Nat.not_lt.mpr short, held]

/-- The name of a link stands for the names that the link leads along. -/
theorem follow_along {target : Path} (stands : tree.root.at? place = some (.folder entries))
    (held : (Node.folder entries).child? name = some (.link target)) (notUp : name ≠ "..")
    (short : name.utf8ByteSize ≤ longestName) :
    tree.follow (links + 1) place (name :: rest) =
      tree.follow links (linkStart place target) (target.names ++ rest) := by
  rw [follow]
  simp only [stands, notUp, if_false, Nat.not_lt.mpr short, held]

end

/-- Where names alone lead to something, following them leads there. -/
theorem follow_of_at? (links : Nat) {place names : List String} {node : Node}
    (stands : tree.root.at? (place ++ names) = some node)
    (noLink : ∀ target, node ≠ .link target)
    (plain : ∀ name ∈ names, name ≠ ".." ∧ name.utf8ByteSize ≤ longestName) :
    tree.follow links place names = .ok (place ++ names) := by
  induction names generalizing place with
  | nil => rw [follow, List.append_nil]
  | cons name names ih =>
      obtain ⟨⟨notUp, short⟩, plain⟩ := List.forall_mem_cons.mp plain
      obtain ⟨outer, outerStands, below⟩ : ∃ outer, tree.root.at? place = some outer ∧
          outer.at? (name :: names) = some node := by
        rwa [Node.at?_append, Option.bind_eq_some_iff] at stands
      obtain ⟨inner, held, further⟩ := Node.at?_cons_eq_some_iff.mp below
      obtain ⟨entries, rfl⟩ := Node.exists_entries_of_child? held
      -- Whatever there are names behind is a folder.
      have noLinkOnTheWay : ∀ target, inner ≠ .link target := by
        cases names with
        | nil =>
            cases further
            exact noLink
        | cons next names =>
            obtain ⟨_, innerHeld, -⟩ := Node.at?_cons_eq_some_iff.mp further
            obtain ⟨_, rfl⟩ := Node.exists_entries_of_child? innerHeld
            exact nofun
      rw [List.append_cons] at stands ⊢
      rw [follow_into outerStands held noLinkOnTheWay notUp short, ih stands plain]

theorem find_eq_ok_iff {path : Path} {node : Node} :
    tree.find path = .ok node ↔
      ∃ place, tree.follow mostLinks (tree.start path) path.names = .ok place ∧
        tree.root.at? place = some node := by
  cases followed : tree.follow mostLinks (tree.start path) path.names with
  | error fault => simp [find, followed, bind, Except.bind]
  | ok place =>
      cases stands : tree.root.at? place <;>
        simp [find, followed, stands, bind, Except.bind, pure, Except.pure, throw, throwThe,
          MonadExceptOf.throw]

/-- Where names alone lead to something, it is found. -/
theorem find_of_at? {path : Path} {node : Node}
    (stands : tree.root.at? (tree.start path ++ path.names) = some node)
    (noLink : ∀ target, node ≠ .link target)
    (plain : ∀ name ∈ path.names, name ≠ ".." ∧ name.utf8ByteSize ≤ longestName) :
    tree.find path = .ok node :=
  find_eq_ok_iff.mpr ⟨_, follow_of_at? mostLinks stands noLink plain, stands⟩

theorem exists?_of_find {path : Path} {node : Node} (found : tree.find path = .ok node) :
    tree.exists? path = true := by
  rw [exists?, found]
  rfl

section

variable {path : Path} {content : ByteArray}

theorem isFolder_eq_false_of_find (found : tree.find path = .ok (.file content)) :
    tree.isFolder path = false := by
  rw [isFolder, found]

theorem read_of_find (found : tree.find path = .ok (.file content)) :
    tree.read path = .ok content := by
  rw [read, found]
  rfl

end

/-! ### Ways -/

/-- The way along names from one place to another, on which a number of links are followed. -/
inductive Leads (tree : FileTree) :
    (links : Nat) → (place names reached : List String) → Prop where
  | here (place : List String) : Leads tree 0 place [] place
  | up {links : Nat} {place rest reached : List String}
      (above : Leads tree links (parent place) rest reached) :
      Leads tree links place (".." :: rest) reached
  | into {links : Nat} {place rest reached : List String} {name : String} {node : Node}
      (notUp : name ≠ "..") (stands : tree.root.at? (place ++ [name]) = some node)
      (noLink : ∀ target, node ≠ .link target)
      (below : Leads tree links (place ++ [name]) rest reached) :
      Leads tree links place (name :: rest) reached
  | along {links : Nat} {place rest reached : List String} {name : String} {target : Path}
      (notUp : name ≠ "..") (stands : tree.root.at? (place ++ [name]) = some (.link target))
      (further : Leads tree links (linkStart place target) (target.names ++ rest) reached) :
      Leads tree (links + 1) place (name :: rest) reached

/-- What can be followed is a way. -/
theorem exists_leads_of_follow {links : Nat} {place names reached : List String}
    (followed : tree.follow links place names = .ok reached) :
    ∃ count, tree.Leads count place names reached := by
  fun_induction follow tree links place names with
  | case1 =>
      cases followed
      exact ⟨0, .here _⟩
  | case2 links place rest entries stands ih =>
      obtain ⟨count, above⟩ := ih followed
      exact ⟨count, .up above⟩
  | case3 => cases followed
  | case4 => cases followed
  | case5 => cases followed
  | case6 place name rest entries stands notUp _ target held links ih =>
      obtain ⟨count, further⟩ := ih followed
      exact ⟨count + 1, .along notUp (at?_of_child? stands held) further⟩
  | case7 links place name rest entries stands notUp _ node noLink held ih =>
      obtain ⟨count, below⟩ := ih followed
      exact ⟨count, .into notUp (at?_of_child? stands held) noLink below⟩
  | case8 => cases followed
  | case9 => cases followed

namespace Leads

/-- The number of links on a way is fixed by where it begins and by its names. -/
theorem links_unique {links links' : Nat} {place names reached reached' : List String}
    (leads : tree.Leads links place names reached)
    (leads' : tree.Leads links' place names reached') : links = links' := by
  induction leads generalizing links' with
  | here place =>
      cases leads'
      rfl
  | up above ih =>
      cases leads' with
      | up above' => exact ih above'
      | into notUp => exact absurd rfl notUp
      | along notUp => exact absurd rfl notUp
  | into notUp stands noLink below ih =>
      cases leads' with
      | up => exact absurd rfl notUp
      | into _ stands' _ below' => exact ih below'
      | along _ stands' =>
          rw [stands, Option.some_inj] at stands'
          exact absurd stands' (noLink _)
  | along notUp stands further ih =>
      cases leads' with
      | up => exact absurd rfl notUp
      | into _ stands' noLink =>
          rw [stands, Option.some_inj] at stands'
          exact absurd stands'.symm (noLink _)
      | along _ stands' further' =>
          rw [stands, Option.some_inj, Node.link.injEq] at stands'
          subst stands'
          rw [ih further']

/-- A way along names can be parted behind any of them. -/
theorem exists_of_append {links : Nat} {place names rest reached : List String}
    (leads : tree.Leads links place (names ++ rest) reached) :
    ∃ first second middle, links = first + second ∧ tree.Leads first place names middle ∧
      tree.Leads second middle rest reached := by
  cases names with
  | nil => exact ⟨0, links, place, (Nat.zero_add links).symm, .here place, leads⟩
  | cons name names =>
      rw [List.cons_append] at leads
      cases leads with
      | up above =>
          obtain ⟨first, second, middle, sum, before, after⟩ := above.exists_of_append
          exact ⟨first, second, middle, sum, .up before, after⟩
      | into notUp stands noLink below =>
          obtain ⟨first, second, middle, sum, before, after⟩ := below.exists_of_append
          exact ⟨first, second, middle, sum, .into notUp stands noLink before, after⟩
      | along notUp stands further =>
          -- The names that the link stands for take its place before the others.
          rw [← List.append_assoc] at further
          obtain ⟨first, second, middle, sum, before, after⟩ := further.exists_of_append
          exact ⟨first + 1, second, middle, by omega, .along notUp stands before, after⟩
termination_by (links, names.length)

end Leads

/-! ### Links in progress -/

/-- What is known of the links that are being resolved on the way along some names, when the
rest of the way takes a number of links. -/
structure InProgress (tree : FileTree) (links depth : Nat) (active : List (List String)) :
    Prop where
  distinct : active.Nodup
  areLinks : ∀ link ∈ active, ∃ target, tree.root.at? link = some (.link target)
  depth_ge : tree.root.linkCount ≤ depth + active.length
  /-- Following one of the links takes more links than the rest of the way does. -/
  longer : ∀ place name, place ++ [name] ∈ active → ∀ count reached,
    tree.Leads count place [name] reached → links < count

namespace InProgress

variable {links depth : Nat} {active : List (List String)}

theorem none (tree : FileTree) (links : Nat) : tree.InProgress links tree.root.linkCount [] where
  distinct := List.nodup_nil
  areLinks := by simp
  depth_ge := Nat.le_add_right _ _
  longer := by simp

theorem mono (inProgress : tree.InProgress links depth active) {fewer : Nat}
    (le : fewer ≤ links) : tree.InProgress fewer depth active where
  distinct := inProgress.distinct
  areLinks := inProgress.areLinks
  depth_ge := inProgress.depth_ge
  longer place name mem count reached leads :=
    Nat.lt_of_le_of_lt le (inProgress.longer place name mem count reached leads)

section

variable {place reached : List String} {name : String} {target : Path} {count : Nat}

/-- A link that can be followed is not in progress already. -/
theorem not_mem (inProgress : tree.InProgress links depth active)
    (leads : tree.Leads count place [name] reached) (le : count ≤ links) :
    place ++ [name] ∉ active := by
  intro mem
  have longer := inProgress.longer place name mem count reached leads
  omega

/-- Entering a link leaves room for it, and it becomes one of the links in progress. -/
theorem enter (inProgress : tree.InProgress links depth active)
    (leads : tree.Leads (count + 1) place [name] reached) (le : count + 1 ≤ links)
    (stands : tree.root.at? (place ++ [name]) = some (.link target)) :
    ∃ below, depth = below + 1 ∧ tree.InProgress count below ((place ++ [name]) :: active) := by
  have distinct : ((place ++ [name]) :: active).Nodup :=
    List.nodup_cons.mpr ⟨inProgress.not_mem leads le, inProgress.distinct⟩
  have areLinks : ∀ link ∈ (place ++ [name]) :: active,
      ∃ target, tree.root.at? link = some (.link target) := by
    intro link mem
    rcases List.mem_cons.mp mem with rfl | mem
    · exact ⟨target, stands⟩
    · exact inProgress.areLinks link mem
  have room := tree.root.length_le_linkCount distinct areLinks
  have depth_ge := inProgress.depth_ge
  rw [List.length_cons] at room
  obtain ⟨below, rfl⟩ : ∃ below, depth = below + 1 := ⟨depth - 1, by omega⟩
  refine ⟨below, rfl, ⟨distinct, areLinks, ?_, ?_⟩⟩
  · rw [List.length_cons]
    omega
  · intro place' name' mem other reached' leads'
    rcases List.mem_cons.mp mem with same | mem
    · -- The link itself takes the links behind it and one more.
      obtain ⟨rfl, nameEq⟩ := List.append_inj' same rfl
      obtain rfl := List.singleton_inj.mp nameEq
      have countEq := leads.links_unique leads'
      omega
    · have longer := inProgress.longer place' name' mem other reached' leads'
      omega

end

end InProgress

/-! ### Resolving -/

/-- Resolving goes the way that there is, past links in progress, to its end. -/
theorem Leads.resolveFrom_eq {links : Nat} {place names reached : List String}
    (leads : tree.Leads links place names reached) {depth : Nat} {active : List (List String)}
    (inProgress : tree.InProgress links depth active) :
    tree.resolveFrom depth active place names = (reached, true) := by
  cases leads with
  | here => rw [resolveFrom]
  | up above =>
      rw [resolveFrom, if_pos rfl]
      exact above.resolveFrom_eq inProgress
  | @into _ _ rest _ name node notUp stands noLink below =>
      have belowEq := below.resolveFrom_eq inProgress
      rw [resolveFrom, if_neg notUp]
      simp only [stands]
      cases node with
      | link target => exact absurd rfl (noLink target)
      | file content => exact belowEq
      | folder entries => exact belowEq
  | @along links _ rest _ name target notUp stands further =>
      -- The link and the names behind it are gone along one after the other.
      obtain ⟨first, second, middle, rfl, before, after⟩ := further.exists_of_append
      have whole : tree.Leads (first + 1) place [name] middle :=
        .along notUp stands (by rwa [List.append_nil])
      obtain ⟨below, rfl, entered⟩ := inProgress.enter whole (by omega) stands
      have beforeEq := before.resolveFrom_eq entered
      have fewer : second ≤ first + second + 1 := by omega
      have afterEq := after.resolveFrom_eq (inProgress.mono fewer)
      rw [resolveFrom, if_neg notUp]
      simp only [stands, List.contains_iff_mem, inProgress.not_mem whole (by omega), beforeEq]
      exact afterEq
termination_by (links, names.length)

theorem placeOf_eq_of_follow {links : Nat} {path : Path} {place : List String}
    (followed : tree.follow links (tree.start path) path.names = .ok place) :
    tree.placeOf path = place := by
  obtain ⟨count, leads⟩ := exists_leads_of_follow followed
  rw [placeOf, leads.resolveFrom_eq (.none tree count)]

/-- What is found at the end of a path stands at the place that the path leads to. -/
theorem at?_placeOf_of_find {path : Path} {node : Node} (found : tree.find path = .ok node) :
    tree.root.at? (tree.placeOf path) = some node := by
  obtain ⟨place, followed, stands⟩ := find_eq_ok_iff.mp found
  rwa [placeOf_eq_of_follow followed]

end FileTree

end Lookalike
