import Backlog.Proofs.ByteOrder
import Backlog.Source.Search

set_option relaxedAutoImplicit false
set_option autoImplicit false

/-!
# Places in a tree

A directory gives every name to one entry only. So the names on the way to a node tell which node it
is, in whatever order the directories list their entries. The path of a place is the path of the
directory where one starts, followed by these names; where it takes too many bytes, the place cannot
be reached.

## Main definitions

* `Backlog.Entries.IsTree` — names are proper and distinct, in all directories.
* `Backlog.Entries.SameTree` — two listings of the same tree.
* `Backlog.Entries.nested` — directories one in the other, as deep as one likes.
* `Backlog.pathBelow` — the path of a place.
* `Backlog.InReach` — the path of a place is short enough.

## Main results

* `Backlog.Entries.IsTree.lookup_eq_some_iff` — a name leads to the entry that bears it.
* `Backlog.Entries.node?_cons_of_directory` — the way to a node goes through its directory.
* `Backlog.Entries.IsTree.sameTree_of_perm` — the order of the entries does not matter.
* `Backlog.roomBelow_lt_iff`, `Backlog.roomBelow_joined` — the room for a name is what its path
  leaves.
-/

namespace Backlog

open Text

variable {entries inner other : Entries} {name path : Text} {place : List Text} {node : Node}

/-! ## Trees -/

/-- A name that an entry may have: it is not empty, does not stand for a directory itself or for the
one above, and has no slash. -/
structure IsEntryName (name : Text) : Prop where
  isName : isName name = true
  slash : '/' ∉ name

/-- No directory gives a name twice or a name that no entry may have. -/
inductive Entries.IsTree : Entries → Prop
  | intro {entries : Entries} (nodup : (entries.map (·.1)).Nodup)
      (names : ∀ entry ∈ entries, IsEntryName entry.1)
      (below : ∀ name inner, (name, .directory inner) ∈ entries → IsTree inner) : IsTree entries

/-- An entry name is not empty. -/
lemma IsEntryName.ne_nil (h : IsEntryName name) : name ≠ [] := by
  rintro rfl
  exact absurd h.isName (by decide)

/-- A name without a slash may be an entry name if it does not consist of dots. -/
lemma IsEntryName.of_mem {c : Char} (mem : c ∈ name) (noDot : c ≠ '.') (slash : '/' ∉ name) :
    IsEntryName name := by
  have other (dots : Text) (h : c ∉ dots) : name ≠ dots := by
    rintro rfl
    exact h mem
  have nonempty := other [] List.not_mem_nil
  have noStay := other ['.'] (by simpa using noDot)
  have noRise := other ['.', '.'] (by simpa using noDot)
  refine ⟨?_, slash⟩
  simp [Backlog.isName, nonempty, noStay, noRise]

/-- What can be seen of a node from outside: of a directory only that it is one. -/
def Node.outside : Node → Node
  | .directory _ => .directory []
  | node => node

namespace Entries

/-- The names in a directory of a tree are distinct. -/
lemma IsTree.nodup (tree : entries.IsTree) : (entries.map (·.1)).Nodup := by
  obtain ⟨nodup, -, -⟩ := tree
  exact nodup

/-- The names in a directory of a tree are such as an entry may have. -/
lemma IsTree.isEntryName (tree : entries.IsTree) (mem : (name, node) ∈ entries) :
    IsEntryName name := by
  obtain ⟨-, names, -⟩ := tree
  exact names _ mem

/-- A directory in a tree is a tree. -/
lemma IsTree.of_directory (tree : entries.IsTree) (mem : (name, .directory inner) ∈ entries) :
    inner.IsTree := by
  obtain ⟨-, -, below⟩ := tree
  exact below _ _ mem

/-- An empty directory is a tree. -/
lemma isTree_nil : IsTree [] := .intro List.nodup_nil (List.forall_mem_nil _) nofun

/-- A directory with a single entry is a tree if that entry is one. -/
lemma isTree_singleton (h : IsEntryName name)
    (below : ∀ inner : Entries, node = .directory inner → inner.IsTree) :
    IsTree [(name, node)] := by
  refine .intro (by simp) ?_ ?_
  · rintro entry hentry
    obtain rfl := List.mem_singleton.mp hentry
    exact h
  · rintro other inner hentry
    rw [List.mem_singleton, Prod.mk.injEq] at hentry
    exact below inner hentry.2.symm

/-- What a name leads to is an entry with that name. -/
lemma mem_of_lookup_eq_some (h : entries.lookup name = some node) : (name, node) ∈ entries := by
  obtain ⟨before, after, rfl, -⟩ := List.lookup_eq_some_iff.mp h
  simp

/-- **In a tree a name leads to the entry that bears it.** -/
lemma IsTree.lookup_eq_some_iff (tree : entries.IsTree) :
    entries.lookup name = some node ↔ (name, node) ∈ entries := by
  refine ⟨mem_of_lookup_eq_some, fun mem => ?_⟩
  obtain ⟨before, after, rfl⟩ := List.append_of_mem mem
  refine List.lookup_eq_some_iff.mpr ⟨before, after, rfl, fun entry h => ?_⟩
  have nodup := tree.nodup
  rw [List.map_append, List.map_cons, List.nodup_append] at nodup
  have distinct := nodup.2.2 entry.1 (List.mem_map_of_mem h) name List.mem_cons_self
  rw [bne_iff_ne]
  exact distinct.symm

/-! ## The node at a place -/

/-- **The way to a node goes through its directory.** -/
lemma node?_cons_of_directory (h : entries.lookup name = some (.directory inner))
    (place : List Text) : entries.node? (name :: place) = inner.node? place := by
  cases place with
  | nil => exact h
  | cons next place =>
    rw [node?, h]
    · rfl
    · exact List.cons_ne_nil _ _

/-- Only a directory has entries. -/
lemma bind_entries?_eq_some_iff {found : Option Node} :
    found.bind Node.entries? = some entries ↔ found = some (.directory entries) := by
  rcases found with - | (- | - | -) <;> simp [Node.entries?]

/-- A node behind a name and further names is in the directory with that name. -/
lemma exists_directory_of_node?_cons (h : entries.node? (name :: place) = some node)
    (further : place ≠ []) :
    ∃ inner : Entries, entries.lookup name = some (.directory inner) ∧
      inner.node? place = some node := by
  rw [node?] at h
  · obtain ⟨inner, hinner, hnode⟩ := Option.bind_eq_some_iff.mp h
    exact ⟨inner, bind_entries?_eq_some_iff.mp hinner, hnode⟩
  · exact further

/-- The two hold the same at every place. They list the same tree, perhaps each directory in another
order. -/
def SameTree (entries other : Entries) : Prop :=
  ∀ place, (entries.node? place).map Node.outside = (other.node? place).map Node.outside

/-- The same tree has the same files. -/
lemma SameTree.isFile_iff {bytes : List UInt8} (same : entries.SameTree other) :
    entries.node? place = some (.file bytes) ↔ other.node? place = some (.file bytes) := by
  have outside (node : Option Node) :
      node = some (.file bytes) ↔ node.map Node.outside = some (.file bytes) := by
    rcases node with - | (- | - | -) <;> simp [Node.outside]
  rw [outside (entries.node? place), outside (other.node? place), same place]

/-- The same tree has the same directories. -/
lemma SameTree.isDirectory_iff (same : entries.SameTree other) :
    (∃ inner, entries.node? place = some (.directory inner)) ↔
      ∃ inner, other.node? place = some (.directory inner) := by
  have outside {node : Option Node} :
      (∃ inner, node = some (.directory inner)) ↔
        node.map Node.outside = some (.directory []) := by
    rcases node with - | (- | - | -) <;> simp [Node.outside]
  rw [outside, outside, same place]

/-- **The order in which a directory lists its entries does not matter.** -/
lemma IsTree.sameTree_of_perm (tree : entries.IsTree) (perm : entries.Perm other) :
    other.IsTree ∧ entries.SameTree other := by
  have treeOther : other.IsTree := by
    refine .intro ((perm.map _).nodup_iff.mp tree.nodup) ?_ ?_
    · rintro ⟨name, node⟩ mem
      exact tree.isEntryName (perm.mem_iff.mpr mem)
    · intro name inner mem
      exact tree.of_directory (perm.mem_iff.mpr mem)
  have lookup (name : Text) : entries.lookup name = other.lookup name := by
    ext node
    rw [tree.lookup_eq_some_iff, treeOther.lookup_eq_some_iff, perm.mem_iff]
  refine ⟨treeOther, fun place => ?_⟩
  match place with
  | [] => rfl
  | [name] => rw [node?, node?, lookup name]
  | name :: next :: place =>
    rw [node?, node?, lookup name] <;> exact List.cons_ne_nil _ _

/-! ## Nested directories -/

/-- The entries in directories with the same name, one in the other. -/
def nested (name : Text) (inner : Entries) : ℕ → Entries
  | 0 => inner
  | depth + 1 => [(name, .directory (nested name inner depth))]

/-- A tree in nested directories is a tree. -/
lemma isTree_nested (h : IsEntryName name) (tree : inner.IsTree) (depth : ℕ) :
    (nested name inner depth).IsTree := by
  induction depth with
  | zero => exact tree
  | succ depth ih =>
    refine isTree_singleton h fun found isDirectory => ?_
    obtain rfl := Node.directory.inj isDirectory
    exact ih

/-- The names of nested directories lead to what is in them. -/
lemma node?_nested (name : Text) (inner : Entries) (place : List Text) (depth : ℕ) :
    (nested name inner depth).node? (List.replicate depth name ++ place) = inner.node? place := by
  induction depth with
  | zero => rfl
  | succ depth ih =>
    have lookup : (nested name inner (depth + 1)).lookup name =
        some (.directory (nested name inner depth)) := by
      rw [nested, List.lookup_cons_self]
    rw [List.replicate_succ, List.cons_append, node?_cons_of_directory lookup, ih]

end Entries

/-! ## Paths -/

/-- The path of an entry with the name, in the directory with the path. -/
def joined (path name : Text) : Text :=
  (if path.getLast? = some '/' then path else path ++ ['/']) ++ name

/-- The path of a place, for one who starts in the directory with the path. -/
def pathBelow (path : Text) (place : List Text) : Text := place.foldl joined path

/-- The path of the place is no longer than paths may be. -/
def InReach (path : Text) (place : List Text) : Prop :=
  byteLength (pathBelow path place) ≤ maxPathBytes

instance (path : Text) (place : List Text) : Decidable (InReach path place) :=
  inferInstanceAs (Decidable (_ ≤ _))

/-- A path in a directory is longer than that of the directory. -/
lemma byteLength_le_joined (path name : Text) :
    byteLength path ≤ byteLength (joined path name) := by
  rw [joined, byteLength_append]
  split
  · omega
  · rw [byteLength_append]
    omega

/-- A directory is in reach if anything in it is. -/
lemma byteLength_le_pathBelow (path : Text) (place : List Text) :
    byteLength path ≤ byteLength (pathBelow path place) := by
  induction place generalizing path with
  | nil => exact le_rfl
  | cons name place ih => exact le_trans (byteLength_le_joined path name) (ih (joined path name))

/-- A place behind another one is in reach if it is so from there. -/
lemma inReach_append_iff {further : List Text} :
    InReach path (place ++ further) ↔ InReach (pathBelow path place) further := by
  rw [InReach, pathBelow, List.foldl_append]
  rfl

/-- A place is in reach if one behind it is. -/
lemma InReach.of_append {further : List Text} (h : InReach path (place ++ further)) :
    InReach path place :=
  le_trans (byteLength_le_pathBelow (pathBelow path place) further) (inReach_append_iff.mp h)

/-- **The room for a name is what its path leaves.** -/
lemma roomBelow_lt_iff (h : IsEntryName name) :
    roomBelow path < byteLength name ↔ ¬ InReach path [name] := by
  have some := byteLength_pos h.ne_nil
  have whole : byteLength (pathBelow path [name]) =
      byteLength (if path.getLast? = .some '/' then path else path ++ ['/']) + byteLength name := by
    rw [← byteLength_append]
    rfl
  rw [InReach, whole, roomBelow]
  omega

/-- In a directory the name of the directory and a slash leave so much less room. -/
lemma roomBelow_joined (h : IsEntryName name) (path : Text) :
    roomBelow (joined path name) = roomBelow path - byteLength name - 1 := by
  have last : (joined path name).getLast? ≠ some '/' := by
    rw [joined, List.getLast?_append_of_ne_nil _ h.ne_nil]
    exact fun slash => h.slash (List.mem_of_getLast? slash)
  have slash : byteLength ['/'] = 1 := rfl
  rw [roomBelow, if_neg last, byteLength_append, joined, byteLength_append, roomBelow]
  omega

/-- Nested directories leave less room, each as much as the first one. -/
lemma roomBelow_pathBelow_replicate (h : IsEntryName name) (path : Text) (depth : ℕ) :
    roomBelow (pathBelow path (List.replicate depth name)) =
      roomBelow path - depth * (byteLength name + 1) := by
  induction depth generalizing path with
  | zero => rw [List.replicate_zero, Nat.zero_mul, Nat.sub_zero, pathBelow, List.foldl_nil]
  | succ depth ih =>
    have deeper : pathBelow path (List.replicate (depth + 1) name) =
        pathBelow (joined path name) (List.replicate depth name) := rfl
    rw [deeper, ih, roomBelow_joined h, Nat.succ_mul]
    omega

/-- Nested directories are in reach as long as there is room for one more name. -/
lemma inReach_replicate_succ_iff (h : IsEntryName name) (path : Text) (depth : ℕ) :
    InReach path (List.replicate (depth + 1) name) ↔
      byteLength name ≤ roomBelow path - depth * (byteLength name + 1) := by
  rw [List.replicate_succ', inReach_append_iff, ← Nat.not_lt,
    ← roomBelow_pathBelow_replicate h path depth, roomBelow_lt_iff h, not_not]

/-! ## Opened directories -/

/-- A path that is opened is in reach itself. -/
lemma FileSystem.inReach_of_opened? {fs : FileSystem} (opened : fs.opened? path = some entries) :
    InReach path [] := by
  rw [FileSystem.opened?, Option.ite_none_left_eq_some, not_or] at opened
  exact Nat.not_lt.mp opened.1.2

end Backlog
