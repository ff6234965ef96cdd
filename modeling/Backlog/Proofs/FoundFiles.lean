import Backlog.Proofs.PathResolution
import Backlog.Proofs.SearchVisits

set_option relaxedAutoImplicit false
set_option autoImplicit false

/-!
# What a search finds

A search reads the source files of a tree in the order of their places and collects their todos. A
file that is too large, no UTF-8 or out of reach is counted as skipped, and so is a directory out of
reach, of which nothing is known.

So a search misses what lies too deep. Where nothing does, it finds the todos of all source files.

## Main definitions

* `Backlog.Search.IsEligible` — the source files of a tree.
* `Backlog.Search.IsSkipped` — the places of what cannot be read.
* `Backlog.Search.Finds` — the findings of a search.
* `Backlog.Search.FindsAll` — the findings of a search that nothing is too deep for.

## Main results

* `Backlog.Search.visits_iff` — where the visits of a search take place.
* `Backlog.Search.finds_ofDirectory` — what a search finds.
* `Backlog.Search.exists_found?_finds` — what is found where a path leads, in whatever order the
  entries are listed.
* `Backlog.Search.not_findsAll_of_deep` — a search misses a file that lies too deep.
-/

namespace Backlog

open Text

variable {search : Search} {path name : Text} {above place : List Text} {entries inner : Entries}
  {file : SourceFile} {t : Text}

/-! ## Source files and what cannot be read -/

namespace Search

/-- **A source file of the tree**: it is a file there, its name is that of a source file, and the
directories above it are entered. -/
structure IsEligible (search : Search) (entries : Entries) (file : SourceFile) : Prop where
  isFile : entries.node? file.place = some (.file file.bytes)
  named : search.IsSourceName file.stem file.extension
  entered : search.Enters file.above

/-- A source file is known by its place. -/
lemma IsEligible.eq_of_place_eq {other : SourceFile} (eligible : search.IsEligible entries file)
    (eligibleOther : search.IsEligible entries other) (same : file.place = other.place) :
    file = other := by
  have node := eligible.isFile
  rw [same, eligibleOther.isFile] at node
  have bytes : other.bytes = file.bytes := Node.file.inj (Option.some.inj node)
  obtain ⟨above, name⟩ := List.append_inj' same rfl
  obtain ⟨stem, extension⟩ :=
    eligible.named.eq_of_append_eq eligibleOther.named (List.singleton_inj.mp name)
  cases file
  cases other
  rw [SourceFile.mk.injEq]
  exact ⟨above, stem, extension, bytes.symm⟩

/-- **A directory too deep to be read**: it is entered and out of reach, while the one above it is
in reach. -/
structure IsTooDeep (search : Search) (path : Text) (entries : Entries) (above : List Text)
    (name : Text) : Prop where
  isDirectory : ∃ inner, entries.node? (above ++ [name]) = some (.directory inner)
  entered : search.Enters (above ++ [name])
  reached : InReach path above
  deep : ¬ InReach path (above ++ [name])

/-- **What cannot be read**: a source file in a directory in reach that is not read as any text, and
a directory that is too deep. -/
inductive IsSkipped (search : Search) (path : Text) (entries : Entries) : List Text → Prop
  | file {file : SourceFile} (eligible : search.IsEligible entries file)
      (reached : InReach path file.above) (unread : ∀ t, ¬ file.IsReadAs path t) :
      IsSkipped search path entries file.place
  | directory {above : List Text} {name : Text} (deep : search.IsTooDeep path entries above name) :
      IsSkipped search path entries (above ++ [name])

end Search

/-! ## What findings tell -/

/-- **The findings come from source files that are read as texts**, in the order of the bytes of the
names on the way to them, and from places that are skipped. The todos are those of the texts, and
each file and each place is counted once. -/
structure Findings.ComeFrom (found : Findings) (reads : SourceFile → Text → Prop)
    (skips : List Text → Prop) : Prop where
  read : ∃ sources : List (SourceFile × Text), (∀ file t, (file, t) ∈ sources ↔ reads file t) ∧
    (sources.Pairwise fun a b => compare (a.1.place.map toUtf8) (b.1.place.map toUtf8) = .lt) ∧
    found.todos = (sources.flatMap fun source => Todo.inText source.1.stem source.2) ∧
    found.scanned = sources.length
  skipped : ∃ places : List (List Text), places.Nodup ∧ (∀ place, place ∈ places ↔ skips place) ∧
    found.skipped = places.length

/-- Findings do not depend on how it is said what is read and what is skipped. -/
lemma Findings.ComeFrom.congr {found : Findings} {reads reads' : SourceFile → Text → Prop}
    {skips skips' : List Text → Prop} (come : found.ComeFrom reads skips)
    (sameReads : ∀ file t, reads file t ↔ reads' file t)
    (sameSkips : ∀ place, skips place ↔ skips' place) : found.ComeFrom reads' skips' := by
  obtain ⟨⟨sources, mem, told⟩, places, nodup, memPlaces, count⟩ := come
  exact ⟨⟨sources, fun file t => (mem file t).trans (sameReads file t), told⟩, places, nodup,
    fun place => (memPlaces place).trans (sameSkips place), count⟩

namespace Search

/-- **The findings of a search.** They come from the source files that are read and from what cannot
be read. -/
def Finds (search : Search) (path : Text) (entries : Entries) (found : Findings) : Prop :=
  found.ComeFrom (fun file t => search.IsEligible entries file ∧ file.IsReadAs path t)
    (search.IsSkipped path entries)

/-- **The findings of a search that nothing is too deep for.** They come from all source files. Each
is read as the text that its bytes spell, or skipped if it is too large or no UTF-8. -/
def FindsAll (search : Search) (entries : Entries) (found : Findings) : Prop :=
  found.ComeFrom (fun file t => search.IsEligible entries file ∧ file.Spells t)
    fun place => ∃ file, search.IsEligible entries file ∧ place = file.place ∧ ∀ t, ¬ file.Spells t

/-! ## The places of the visits -/

variable {visit : Visit}

/-- A file in a directory is eligible below it if the directory is entered. -/
lemma isEligible_below_iff (h : entries.lookup name = some (.directory inner)) (file : SourceFile) :
    search.IsEligible entries (file.below name) ↔
      search.Enters [name] ∧ search.IsEligible inner file := by
  have same : entries.node? (file.below name).place = inner.node? file.place :=
    Entries.node?_cons_of_directory h file.place
  constructor
  · rintro ⟨isFile, named, entered⟩
    obtain ⟨first, later⟩ := enters_cons.mp entered
    exact ⟨first, same ▸ isFile, named, later⟩
  · rintro ⟨first, isFile, named, later⟩
    exact ⟨same ▸ isFile, named, enters_cons.mpr ⟨first, later⟩⟩

/-- A directory in another one is too deep below it if the other one is entered. -/
lemma isTooDeep_cons_iff {first : Text} (h : entries.lookup first = some (.directory inner)) :
    search.IsTooDeep path entries (first :: above) name ↔
      search.Enters [first] ∧ search.IsTooDeep (joined path first) inner above name := by
  have same : entries.node? (first :: above ++ [name]) = inner.node? (above ++ [name]) :=
    Entries.node?_cons_of_directory h (above ++ [name])
  constructor
  · rintro ⟨isDirectory, entered, reached, deep⟩
    obtain ⟨hfirst, later⟩ := enters_cons.mp entered
    exact ⟨hfirst, same ▸ isDirectory, later, reached, deep⟩
  · rintro ⟨hfirst, isDirectory, later, reached, deep⟩
    exact ⟨same ▸ isDirectory, enters_cons.mpr ⟨hfirst, later⟩, reached, deep⟩

/-- A search comes across every source file in a directory in reach. -/
lemma visits_of_isEligible (eligible : search.IsEligible entries file)
    (reached : InReach path file.above) : search.Visits path entries (file.visit path) := by
  obtain ⟨above, stem, extension, bytes⟩ := file
  induction above generalizing path entries with
  | nil => exact .file rfl (Entries.mem_of_lookup_eq_some eligible.isFile) eligible.named
  | cons name above ih =>
    let file : SourceFile := ⟨above, stem, extension, bytes⟩
    have further : file.place ≠ [] := List.append_ne_nil_of_right_ne_nil _ (List.cons_ne_nil _ _)
    obtain ⟨inner, lookup, -⟩ := Entries.exists_directory_of_node?_cons eligible.isFile further
    obtain ⟨entered, eligible⟩ := (isEligible_below_iff lookup file).mp eligible
    have inReach : InReach path [name] := reached.of_append
    have visits := ih eligible reached
    have seen : (file.below name).visit path = (file.visit (joined path name)).below name :=
      SourceFile.visit_below path name file
    exact seen ▸ .inside (Entries.mem_of_lookup_eq_some lookup) entered inReach visits

/-- A search comes across every directory that is too deep. -/
lemma visits_of_isTooDeep (deep : search.IsTooDeep path entries above name) :
    search.Visits path entries (.skipped (above ++ [name])) := by
  induction above generalizing path entries with
  | nil =>
    obtain ⟨inner, lookup⟩ := deep.isDirectory
    exact .deep (Entries.mem_of_lookup_eq_some lookup) deep.entered deep.deep
  | cons first above ih =>
    obtain ⟨innermost, isDirectory⟩ := deep.isDirectory
    have further : above ++ [name] ≠ [] :=
      List.append_ne_nil_of_right_ne_nil _ (List.cons_ne_nil _ _)
    obtain ⟨inner, lookup, -⟩ := Entries.exists_directory_of_node?_cons isDirectory further
    have inReach : InReach path [first] := deep.reached.of_append
    obtain ⟨entered, deep⟩ := (isTooDeep_cons_iff lookup).mp deep
    exact .inside (Entries.mem_of_lookup_eq_some lookup) entered inReach (ih deep)

/-- **A search comes across the source files in directories in reach and the directories that are
too deep**, and across nothing else.

**Proof sketch.** From the left to the right, induction on the visit: a directory on the way is the
one to which its name leads, since the names are distinct. From the right to the left, induction on
the directories above. -/
theorem visits_iff (tree : entries.IsTree) (reach : InReach path []) :
    search.Visits path entries visit ↔
      (∃ file, search.IsEligible entries file ∧ InReach path file.above ∧
        visit = file.visit path) ∨
      ∃ above name, search.IsTooDeep path entries above name ∧
        visit = .skipped (above ++ [name]) := by
  constructor
  · intro visits
    induction visits with
    | @file path entries file top mem named =>
      have isFile : entries.node? file.place = some (.file file.bytes) := by
        rw [SourceFile.place, top]
        exact tree.lookup_eq_some_iff.mpr mem
      have entered : search.Enters file.above := by
        rw [top]
        exact fun _ name hname => absurd hname List.not_mem_nil
      exact .inl ⟨file, ⟨isFile, named, entered⟩, top ▸ reach, rfl⟩
    | @deep path name entries inner mem entered deep =>
      exact .inr ⟨[], name, ⟨⟨inner, tree.lookup_eq_some_iff.mpr mem⟩, entered, reach, deep⟩, rfl⟩
    | @inside path name entries inner visit mem entered inReach visits ih =>
      have lookup := tree.lookup_eq_some_iff.mpr mem
      rcases ih (tree.of_directory mem) inReach with
        ⟨file, eligible, reached, rfl⟩ | ⟨above, last, deep, rfl⟩
      · exact .inl ⟨file.below name, (isEligible_below_iff lookup file).mpr ⟨entered, eligible⟩,
          reached, (SourceFile.visit_below path name file).symm⟩
      · exact .inr ⟨name :: above, last, (isTooDeep_cons_iff lookup).mpr ⟨entered, deep⟩, rfl⟩
  · rintro (⟨file, eligible, reached, rfl⟩ | ⟨above, name, deep, rfl⟩)
    · exact visits_of_isEligible eligible reached
    · exact visits_of_isTooDeep deep

/-- A search reads the source files that can be read. -/
lemma visits_read_iff (tree : entries.IsTree) (reach : InReach path []) :
    search.Visits path entries (.read file t) ↔
      search.IsEligible entries file ∧ file.IsReadAs path t := by
  rw [visits_iff tree reach]
  constructor
  · rintro (⟨other, eligible, -, read⟩ | ⟨above, name, -, read⟩)
    · obtain ⟨rfl, readAs⟩ := SourceFile.visit_eq_read_iff.mp read.symm
      exact ⟨eligible, readAs⟩
    · cases read
  · rintro ⟨eligible, readAs⟩
    have reached : InReach path file.above := InReach.of_append readAs.inReach
    exact .inl ⟨file, eligible, reached, (SourceFile.visit_eq_read_iff.mpr ⟨rfl, readAs⟩).symm⟩

/-- A search skips what cannot be read. -/
lemma visits_skipped_iff (tree : entries.IsTree) (reach : InReach path []) :
    search.Visits path entries (.skipped place) ↔ search.IsSkipped path entries place := by
  rw [visits_iff tree reach]
  constructor
  · rintro (⟨file, eligible, reached, skipped⟩ | ⟨above, name, deep, skipped⟩)
    · obtain ⟨rfl, unread⟩ := SourceFile.visit_eq_skipped_iff.mp skipped.symm
      exact .file eligible reached unread
    · cases skipped
      exact .directory deep
  · rintro (⟨eligible, reached, unread⟩ | deep)
    · exact .inl ⟨_, eligible, reached,
        (SourceFile.visit_eq_skipped_iff.mpr ⟨rfl, unread⟩).symm⟩
    · exact .inr ⟨_, _, deep, rfl⟩

/-- The same visits take place in whatever order the entries are listed. -/
lemma visits_congr {other : Entries} (tree : entries.IsTree) (treeOther : other.IsTree)
    (same : entries.SameTree other) (reach : InReach path []) :
    search.Visits path entries visit ↔ search.Visits path other visit := by
  have eligible (file : SourceFile) :
      search.IsEligible entries file ↔ search.IsEligible other file :=
    ⟨fun h => ⟨same.isFile_iff.mp h.isFile, h.named, h.entered⟩,
      fun h => ⟨same.isFile_iff.mpr h.isFile, h.named, h.entered⟩⟩
  have deep (above : List Text) (name : Text) :
      search.IsTooDeep path entries above name ↔ search.IsTooDeep path other above name :=
    ⟨fun h => ⟨same.isDirectory_iff.mp h.isDirectory, h.entered, h.reached, h.deep⟩,
      fun h => ⟨same.isDirectory_iff.mpr h.isDirectory, h.entered, h.reached, h.deep⟩⟩
  simp only [visits_iff tree reach, visits_iff treeOther reach, eligible, deep]

/-! ## The findings -/

variable {found : Findings}

/-- **A search finds the todos of the source files that can be read**, in the order of their places,
and counts all that cannot be read. -/
theorem finds_ofDirectory (search : Search) (tree : entries.IsTree) (reach : InReach path []) :
    search.Finds path entries (search.ofDirectory path entries) := by
  have gathered : (search.ofDirectory path entries).IsGathered (search.Visits path entries) :=
    isGathered_ofDirectory tree path
  obtain ⟨visits, mem, ordered, found⟩ := gathered
  rw [Findings.total_findings] at found
  refine ⟨⟨visits.filterMap Visit.source?, fun file t => ?_, ?_, ?_, ?_⟩,
    visits.filterMap Visit.unread?, ?_, fun place => ?_, ?_⟩
  · rw [List.mem_filterMap, ← visits_read_iff tree reach, ← mem]
    simp [Visit.source?_eq_some_iff]
  · refine List.pairwise_filterMap.mpr (ordered.imp fun {a b} before x hx y hy => ?_)
    obtain rfl := Visit.source?_eq_some_iff.mp hx
    obtain rfl := Visit.source?_eq_some_iff.mp hy
    rw [compare_map_toUtf8]
    exact before
  · rw [found]
  · rw [found]
  · refine List.pairwise_filterMap.mpr (ordered.imp fun {a b} before x hx y hy => ?_)
    obtain rfl := Visit.unread?_eq_some_iff.mp hx
    obtain rfl := Visit.unread?_eq_some_iff.mp hy
    exact fun same => before.ne (congrArg Visit.skipped same)
  · rw [List.mem_filterMap, ← visits_skipped_iff tree reach, ← mem]
    simp [Visit.unread?_eq_some_iff]
  · rw [found]

/-- If nothing is too deep, the search finds all. -/
lemma Finds.findsAll (finds : search.Finds path entries found)
    (shallow : ∀ place node, entries.node? place = some node → InReach path place) :
    search.FindsAll entries found := by
  refine finds.congr (fun file t => and_congr_right fun eligible => ?_) fun place => ?_
  · exact ⟨fun h => h.toSpells, fun h => ⟨h, shallow _ _ eligible.isFile⟩⟩
  · constructor
    · rintro (⟨eligible, -, unread⟩ | ⟨⟨inner, isDirectory⟩, -, -, deep⟩)
      · exact ⟨_, eligible, rfl, fun t h => unread t ⟨h, shallow _ _ eligible.isFile⟩⟩
      · exact absurd (shallow _ _ isDirectory) deep
    · rintro ⟨file, eligible, rfl, unread⟩
      have reached : InReach path file.above := (shallow _ _ eligible.isFile).of_append
      exact .file eligible reached fun t h => unread t h.toSpells

/-- **What a search finds.** If the path leads to the directory of a tree, the search succeeds. It
finds the todos of the source files that can be read, in the order of the bytes of their places, and
it counts them and what cannot be read. If nothing is too deep, these are all source files. It finds
the same in whatever order the entries of each directory are listed. -/
theorem exists_found?_finds {fs : FileSystem} (search : Search)
    (opened : fs.opened? path = some entries) (tree : entries.IsTree) :
    ∃ found, fs.found? search path = some found ∧ search.Finds path entries found ∧
      ((∀ place node, entries.node? place = some node → InReach path place) →
        search.FindsAll entries found) ∧
      ∀ (fs' : FileSystem) (other : Entries), fs'.opened? path = some other → other.IsTree →
        entries.SameTree other → fs'.found? search path = some found := by
  have reach := FileSystem.inReach_of_opened? opened
  have finds := finds_ofDirectory search tree reach
  refine ⟨search.ofDirectory path entries, ?_, finds, finds.findsAll, ?_⟩
  · rw [FileSystem.found?, opened, Option.map_some]
  · intro fs' other openedOther treeOther same
    have visits : ∀ visit, search.Visits path other visit ↔ search.Visits path entries visit :=
      fun visit => (visits_congr tree treeOther same reach).symm
    have found := ((isGathered_ofDirectory treeOther path).congr visits).unique
      (isGathered_ofDirectory tree path)
    rw [FileSystem.found?, openedOther, Option.map_some, found]

/-- A directory with a source file, another one that is no UTF-8, a link and a directory that is
passed over, and the same directory with its entries listed the other way round. -/
theorem exists_found?_finds_reversed :
    let entries : Entries := [("b.JS".toList, .file (toUtf8 "// TODO w; 2021; x\n".toList)),
      ("a.js".toList, .file [255]), ("l.js".toList, .link "/".toList),
      (".git".toList, .directory [])]
    let fs : FileSystem := ⟨[("t".toList, .directory entries)], []⟩
    let reversed : FileSystem := ⟨[("t".toList, .directory entries.reverse)], []⟩
    ∃ found, fs.found? .default "/t".toList = some found ∧
      Search.default.Finds "/t".toList entries found ∧ Search.default.FindsAll entries found ∧
      reversed.found? .default "/t".toList = some found := by
  intro entries fs reversed
  have isName : IsEntryName "t".toList := ⟨by decide, by decide⟩
  have opened : fs.opened? "/t".toList = some entries :=
    FileSystem.opened?_top rfl isName (by decide)
  have openedReversed : reversed.opened? "/t".toList = some entries.reverse :=
    FileSystem.opened?_top rfl isName (by decide)
  have onlyDirectory (name : Text) (inner : Entries) (mem : (name, .directory inner) ∈ entries) :
      inner = [] := by
    simp only [entries, List.mem_cons, Prod.mk.injEq, reduceCtorEq, and_false, false_or,
      Node.directory.injEq, List.not_mem_nil, or_false] at mem
    exact mem.2
  have tree : entries.IsTree := by
    refine .intro (by decide) ?_ fun name inner mem => ?_
    · simp only [entries, List.forall_mem_cons]
      refine ⟨⟨?_, ?_⟩, ⟨?_, ?_⟩, ⟨?_, ?_⟩, ⟨?_, ?_⟩, List.forall_mem_nil _⟩ <;> decide
    · obtain rfl := onlyDirectory name inner mem
      exact .intro List.Pairwise.nil (List.forall_mem_nil _) nofun
  obtain ⟨treeReversed, same⟩ := tree.sameTree_of_perm entries.reverse_perm.symm
  have shallow : ∀ place node, entries.node? place = some node → InReach "/t".toList place := by
    intro place node h
    match place with
    | [] => decide
    | [name] =>
      have mem : name ∈ entries.map (·.1) :=
        List.mem_map_of_mem (Entries.mem_of_lookup_eq_some h)
      have each : ∀ name ∈ entries.map (·.1), InReach "/t".toList [name] := by decide
      exact each name mem
    | name :: next :: place =>
      have further : next :: place ≠ [] := List.cons_ne_nil _ _
      obtain ⟨inner, lookup, node⟩ := Entries.exists_directory_of_node?_cons h further
      obtain rfl := onlyDirectory name inner (Entries.mem_of_lookup_eq_some lookup)
      cases place <;> cases node
  obtain ⟨found, hfound, finds, all, independent⟩ := exists_found?_finds .default opened tree
  exact ⟨found, hfound, finds, all shallow,
    independent reversed _ openedReversed treeReversed same⟩

/-! ## What lies too deep -/

/-- A search that finds all has read every source file, so each of them is in reach.

**Proof sketch.** The files that are read are among all that are not too large and UTF-8, and there
are equally many of both, so they are the same. -/
lemma Finds.inReach (finds : search.Finds path entries found)
    (all : search.FindsAll entries found) (eligible : search.IsEligible entries file)
    (spells : file.Spells t) : InReach path file.place := by
  obtain ⟨⟨sources, mem, ordered, -, count⟩, -⟩ := finds
  obtain ⟨⟨others, memOther, -, -, countOther⟩, -⟩ := all
  have nodup : sources.Nodup := by
    refine ordered.imp fun {a b} before same => ?_
    rw [same, Std.ReflOrd.compare_self] at before
    cases before
  have subset : sources ⊆ others := by
    rintro ⟨file, t⟩ h
    obtain ⟨eligible, readAs⟩ := (mem file t).mp h
    exact (memOther file t).mpr ⟨eligible, readAs.toSpells⟩
  have perm : sources.Perm others :=
    (List.subperm_of_subset nodup subset).perm_of_length_le (countOther.symm.trans count).le
  have isRead := perm.mem_iff.mpr ((memOther file t).mpr ⟨eligible, spells⟩)
  exact ((mem file t).mp isRead).2.inReach

/-- **A search misses a file that lies too deep**, however readable its bytes are. -/
lemma not_findsAll_of_deep {fs : FileSystem} (opened : fs.opened? path = some entries)
    (tree : entries.IsTree) (eligible : search.IsEligible entries file) (spells : file.Spells t)
    (deep : ¬ InReach path file.place) :
    ¬ ∃ found, fs.found? search path = some found ∧ search.FindsAll entries found := by
  rintro ⟨found, hfound, all⟩
  rw [FileSystem.found?_eq_some opened] at hfound
  obtain rfl := Option.some.inj hfound
  have finds := finds_ofDirectory search tree (FileSystem.inReach_of_opened? opened)
  exact deep (finds.inReach all eligible spells)

/-- A file of one line at the end of 15 directories whose names are as long as names may be, and
whose own name is so, too. -/
theorem not_findsAll_nested :
    let name := List.replicate 255 'A'
    let file : SourceFile := ⟨List.replicate 15 name, List.replicate 252 'f', "js".toList,
      toUtf8 "// TODO longfile; 2020; x\n".toList⟩
    let entries := Entries.nested name [(file.name, .file file.bytes)] 15
    let fs : FileSystem := ⟨[("t".toList, .directory entries)], []⟩
    fs.opened? "/t".toList = some entries ∧ entries.IsTree ∧
      ¬ ∃ found, fs.found? .default "/t".toList = some found ∧
        Search.default.FindsAll entries found := by
  intro name file entries fs
  have letter : 'A' ∈ name := List.mem_replicate.mpr ⟨by decide, rfl⟩
  have isName : IsEntryName name :=
    .of_mem letter (by decide) fun slash => absurd (List.eq_of_mem_replicate slash) (by decide)
  have isFileName : IsEntryName file.name := by
    refine .of_mem (c := 'j') (List.mem_append_right _ (by decide)) (by decide) fun slash => ?_
    rcases List.mem_append.mp slash with inStem | behind
    · exact absurd (List.eq_of_mem_replicate inStem) (by decide)
    · exact absurd behind (by decide)
  have opened : fs.opened? "/t".toList = some entries :=
    FileSystem.opened?_top rfl ⟨by decide, by decide⟩ (by decide)
  have tree : entries.IsTree := by
    refine Entries.isTree_nested isName (Entries.isTree_singleton isFileName ?_) 15
    intro inner isDirectory
    cases isDirectory
  have eligible : Search.default.IsEligible entries file := by
    have stem : file.stem ≠ [] := List.cons_ne_nil _ _
    refine ⟨?_, ⟨stem, by decide, "js".toList, by decide, by decide⟩, ?_⟩
    · refine (Entries.node?_nested name [(file.name, .file file.bytes)] [file.name] 15).trans ?_
      exact List.lookup_cons_self
    · intro _ other hother
      obtain rfl := List.eq_of_mem_replicate hother
      decide
  have spells : file.Spells "// TODO longfile; 2020; x\n".toList := ⟨by decide, rfl⟩
  have deep : ¬ InReach "/t".toList file.place := by
    have long : byteLength file.name = 255 := by
      rw [SourceFile.name, byteLength_append, byteLength_replicate]
      rfl
    have room : roomBelow (pathBelow "/t".toList (List.replicate 15 name)) = 252 := by
      rw [roomBelow_pathBelow_replicate isName, byteLength_replicate]
      rfl
    rw [SourceFile.place, inReach_append_iff, ← roomBelow_lt_iff isFileName, room, long]
    omega
  exact ⟨opened, tree, not_findsAll_of_deep opened tree eligible spells deep⟩

end Search

end Backlog
