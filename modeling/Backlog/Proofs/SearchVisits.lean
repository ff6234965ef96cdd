import Backlog.Proofs.FieldDivision
import Backlog.Proofs.InputLines
import Backlog.Proofs.TreePlaces
import Backlog.Proofs.VisitOrder

set_option relaxedAutoImplicit false
set_option autoImplicit false

/-!
# What a search comes across

A search goes through a directory and the directories in it that are not passed over. There it comes
across source files, the files with a wanted extension, and reads those that are in reach, not too
large and UTF-8. Of a directory out of reach nothing is known.

The visits are told directory by directory, as the search goes on. What is found in a directory is
what is found at the visits in it.

## Main definitions

* `Backlog.Search.IsSourceName` — the parts of the name of a source file.
* `Backlog.SourceFile.IsReadAs` — a source file that can be read, and its text.
* `Backlog.Search.Visits` — what a search comes across, directory by directory.

## Main results

* `Backlog.Search.stem?_eq_some_iff` — which names are those of source files.
* `Backlog.Search.visits_file_iff`, `Backlog.Search.visits_directory_iff` — the visits that belong to
  one entry.
* `Backlog.Search.isGathered_ofDirectory` — a search finds what it comes across, in order.
-/

namespace Backlog

open Text

variable {search : Search} {path name stem extension : Text} {above place : List Text}
  {entries inner : Entries} {node : Node} {file : SourceFile} {bytes : List UInt8} {t : Text}

/-! ## The names of source files -/

/-- **The parts of a name** are what stands before and behind its last dot. -/
lemma nameParts?_eq_some_iff :
    nameParts? name = some (stem, extension) ↔
      name = stem ++ '.' :: extension ∧ stem ≠ [] ∧ '.' ∉ extension := by
  constructor
  · intro h
    unfold nameParts? at h
    cases cut : cutAt? '.' name.reverse with
    | none =>
      rw [cut] at h
      cases h
    | some parts =>
      obtain ⟨behind, before⟩ := parts
      rw [cut, Option.ite_none_left_eq_some] at h
      obtain ⟨nonempty, h⟩ := h
      obtain ⟨whole, undotted⟩ := Text.cutAt?_eq_some_iff.mp cut
      cases h
      refine ⟨?_, ?_, ?_⟩
      · rw [← List.reverse_reverse name, whole]
        simp
      · simpa using nonempty
      · simpa using undotted
  · rintro ⟨rfl, nonempty, undotted⟩
    have cut : cutAt? '.' (stem ++ '.' :: extension).reverse =
        some (extension.reverse, stem.reverse) := by
      rw [Text.cutAt?_eq_some_iff]
      simp [undotted]
    rw [nameParts?, cut]
    simp [nonempty]

namespace Search

/-- The parts of the name of a source file: something stands before the dot, and behind it, without
a dot, an extension that is looked for, up to the case of ASCII letters. -/
structure IsSourceName (search : Search) (stem extension : Text) : Prop where
  nonempty : stem ≠ []
  undotted : '.' ∉ extension
  wanted : ∃ wanted ∈ search.extensions, sameButForCase wanted extension = true

/-- A source file has a stem. -/
lemma stem?_eq_some_iff :
    search.stem? name = some stem ↔
      ∃ extension, name = stem ++ '.' :: extension ∧ search.IsSourceName stem extension := by
  constructor
  · intro h
    unfold stem? at h
    cases parts : nameParts? name with
    | none =>
      rw [parts] at h
      cases h
    | some pair =>
      obtain ⟨first, extension⟩ := pair
      rw [parts, Option.ite_none_right_eq_some] at h
      obtain ⟨wanted, h⟩ := h
      cases h
      obtain ⟨rfl, nonempty, undotted⟩ := nameParts?_eq_some_iff.mp parts
      exact ⟨extension, rfl, nonempty, undotted, List.any_eq_true.mp wanted⟩
  · rintro ⟨extension, rfl, nonempty, undotted, wanted⟩
    have wants : search.wants extension = true := List.any_eq_true.mpr wanted
    rw [stem?, nameParts?_eq_some_iff.mpr ⟨rfl, nonempty, undotted⟩]
    exact if_pos wants

/-- The two parts of the name of a source file can be told from the name. -/
lemma IsSourceName.eq_of_append_eq {stem' extension' : Text}
    (h : search.IsSourceName stem extension) (h' : search.IsSourceName stem' extension')
    (same : stem ++ '.' :: extension = stem' ++ '.' :: extension') :
    stem = stem' ∧ extension = extension' := by
  have parts := nameParts?_eq_some_iff.mpr ⟨same, h'.nonempty, h'.undotted⟩
  rw [nameParts?_eq_some_iff.mpr ⟨rfl, h.nonempty, h.undotted⟩] at parts
  cases parts
  exact ⟨rfl, rfl⟩

/-! ## The names of directories -/

/-- The search goes into directories with these names. -/
def Enters (search : Search) (above : List Text) : Prop :=
  search.includeIgnored = false → ∀ name ∈ above, name ∉ ignoredNames

/-- A directory that is not passed over is entered. -/
lemma passesOver_eq_false_iff : search.passesOver name = false ↔ search.Enters [name] := by
  cases h : search.includeIgnored <;> simp [passesOver, Enters, h]

/-- The names are looked at one by one. -/
lemma enters_cons :
    search.Enters (name :: above) ↔ search.Enters [name] ∧ search.Enters above := by
  simp only [Enters, List.forall_mem_cons, List.not_mem_nil, false_imp_iff, implies_true, and_true]
  exact forall_and

end Search

/-! ## Reading a source file -/

/-- The text of a source file is what its bytes spell, if they are not too many. -/
lemma sourceText?_eq_some_iff :
    sourceText? bytes = some t ↔ bytes.length ≤ maxFileSize ∧ bytes = toUtf8 t := by
  rw [sourceText?, Option.ite_none_left_eq_some, Text.ofUtf8?_eq_some_iff, Nat.not_lt]

namespace SourceFile

/-- The bytes of the file are not too many and spell the text. -/
structure Spells (file : SourceFile) (t : Text) : Prop where
  size : file.bytes.length ≤ maxFileSize
  spelled : file.bytes = toUtf8 t

/-- **The file is read as the text**: it is in reach, and its bytes are not too many and spell the
text. -/
structure IsReadAs (path : Text) (file : SourceFile) (t : Text) : Prop extends file.Spells t where
  inReach : InReach path file.place

/-- The text as which the file is read. -/
def text? (path : Text) (file : SourceFile) : Option Text :=
  if InReach path file.place then sourceText? file.bytes else none

/-- The text as which a file is read. -/
lemma text?_eq_some_iff : file.text? path = some t ↔ file.IsReadAs path t := by
  rw [text?, Option.ite_none_right_eq_some, sourceText?_eq_some_iff]
  exact ⟨fun h => ⟨⟨h.2.1, h.2.2⟩, h.1⟩, fun h => ⟨h.inReach, h.size, h.spelled⟩⟩

/-- The visit of a search to a source file. -/
def visit (path : Text) (file : SourceFile) : Visit :=
  (file.text? path).elim (.skipped file.place) (.read file)

/-- The file is read as a text that is its own. -/
lemma visit_eq_read_iff {other : SourceFile} :
    file.visit path = .read other t ↔ other = file ∧ file.IsReadAs path t := by
  rw [← text?_eq_some_iff, visit]
  cases file.text? path with
  | none => simp
  | some own => simp [eq_comm]

/-- The file is skipped if it is read as no text. -/
lemma visit_eq_skipped_iff :
    file.visit path = .skipped place ↔ place = file.place ∧ ∀ t, ¬ file.IsReadAs path t := by
  simp only [← text?_eq_some_iff, visit]
  cases file.text? path with
  | none => simp [eq_comm]
  | some own => simp

/-- The visit takes place where the file is. -/
lemma place_visit : (file.visit path).place = file.place := by
  cases visited : file.visit path with
  | read other t => rw [(visit_eq_read_iff.mp visited).1, Visit.place]
  | skipped place => rw [(visit_eq_skipped_iff.mp visited).1, Visit.place]

/-- The visit to a file, seen from above, is the visit to the file as seen from above. -/
lemma visit_below (path name : Text) (file : SourceFile) :
    (file.below name).visit path = (file.visit (joined path name)).below name := by
  have same : (file.below name).text? path = file.text? (joined path name) := rfl
  rw [visit, visit, same]
  cases file.text? (joined path name) <;> rfl

end SourceFile

namespace Search

/-! ## Visits -/

/-- **What a search comes across** in a directory with the path: each source file of the directory,
each directory in it that is entered but out of reach, and what it comes across in the others. -/
inductive Visits (search : Search) : Text → Entries → Visit → Prop
  | file {path : Text} {entries : Entries} {file : SourceFile} (top : file.above = [])
      (mem : (file.name, .file file.bytes) ∈ entries)
      (named : search.IsSourceName file.stem file.extension) :
      Visits search path entries (file.visit path)
  | deep {path name : Text} {entries inner : Entries} (mem : (name, .directory inner) ∈ entries)
      (entered : search.Enters [name]) (deep : ¬ InReach path [name]) :
      Visits search path entries (.skipped [name])
  | inside {path name : Text} {entries inner : Entries} {visit : Visit}
      (mem : (name, .directory inner) ∈ entries) (entered : search.Enters [name])
      (inReach : InReach path [name]) (visits : Visits search (joined path name) inner visit) :
      Visits search path entries (visit.below name)

variable {visit : Visit}

/-- Every visit belongs to one of the entries. -/
lemma visits_iff_exists_mem :
    search.Visits path entries visit ↔ ∃ entry ∈ entries, search.Visits path [entry] visit := by
  constructor
  · rintro (⟨top, mem, named⟩ | ⟨mem, entered, deep⟩ | ⟨mem, entered, inReach, visits⟩)
    · exact ⟨_, mem, .file top List.mem_cons_self named⟩
    · exact ⟨_, mem, .deep List.mem_cons_self entered deep⟩
    · exact ⟨_, mem, .inside List.mem_cons_self entered inReach visits⟩
  · rintro ⟨entry, hentry, ⟨top, mem, named⟩ | ⟨mem, entered, deep⟩ |
      ⟨mem, entered, inReach, visits⟩⟩
    · exact .file top (List.mem_singleton.mp mem ▸ hentry) named
    · exact .deep (List.mem_singleton.mp mem ▸ hentry) entered deep
    · exact .inside (List.mem_singleton.mp mem ▸ hentry) entered inReach visits

/-- A visit that belongs to an entry takes place at its name or below. -/
lemma Visits.head?_place (h : search.Visits path [(name, node)] visit) :
    visit.place.head? = some name := by
  cases h with
  | file top mem named =>
    rw [List.mem_singleton, Prod.mk.injEq] at mem
    rw [SourceFile.place_visit, SourceFile.place, top, mem.1]
    rfl
  | deep mem entered deep =>
    rw [List.mem_singleton, Prod.mk.injEq] at mem
    rw [mem.1]
    rfl
  | inside mem entered inReach visits =>
    rw [List.mem_singleton, Prod.mk.injEq] at mem
    rw [Visit.place_below, mem.1]
    rfl

/-- At a file a search comes across the file itself, if it is a source file. -/
lemma visits_file_iff :
    search.Visits path [(name, .file bytes)] visit ↔ ∃ stem extension,
      name = stem ++ '.' :: extension ∧ search.IsSourceName stem extension ∧
        visit = SourceFile.visit path ⟨[], stem, extension, bytes⟩ := by
  constructor
  · intro visits
    cases visits with
    | @file _ _ file top mem named =>
      rw [List.mem_singleton, Prod.mk.injEq, Node.file.injEq] at mem
      refine ⟨file.stem, file.extension, mem.1.symm, named, ?_⟩
      rw [← mem.2, ← top]
    | deep mem entered deep => simp at mem
    | inside mem entered inReach visits => simp at mem
  · rintro ⟨stem, extension, rfl, named, rfl⟩
    exact .file rfl List.mem_cons_self named

/-- A search leaves links alone. -/
lemma not_visits_link (target : Text) : ¬ search.Visits path [(name, .link target)] visit := by
  intro visits
  cases visits with
  | file top mem named => simp at mem
  | deep mem entered deep => simp at mem
  | inside mem entered inReach visits => simp at mem

/-- At a directory that is entered, a search comes across what is in it, or across the directory
itself if it is out of reach. -/
lemma visits_directory_iff :
    search.Visits path [(name, .directory inner)] visit ↔ search.Enters [name] ∧
      (InReach path [name] ∧
          (∃ inside, search.Visits (joined path name) inner inside ∧ visit = inside.below name) ∨
        ¬ InReach path [name] ∧ visit = .skipped [name]) := by
  constructor
  · intro visits
    cases visits with
    | file top mem named => simp at mem
    | deep mem entered deep =>
      rw [List.mem_singleton, Prod.mk.injEq] at mem
      obtain ⟨rfl, -⟩ := mem
      exact ⟨entered, .inr ⟨deep, rfl⟩⟩
    | inside mem entered inReach visits =>
      rw [List.mem_singleton, Prod.mk.injEq, Node.directory.injEq] at mem
      obtain ⟨rfl, rfl⟩ := mem
      exact ⟨entered, .inl ⟨inReach, _, visits, rfl⟩⟩
  · rintro ⟨entered, ⟨inReach, inside, visits, rfl⟩ | ⟨deep, rfl⟩⟩
    · exact .inside List.mem_cons_self entered inReach visits
    · exact .deep List.mem_cons_self entered deep

/-! ## What is found at the visits -/

/-- Each entry of a directory is searched by itself. -/
lemma ofEntries_eq_map (search : Search) (room : ℕ) (entries : Entries) :
    search.ofEntries room entries =
      entries.map fun entry => (entry.1, search.ofNode room entry.1 entry.2) := by
  induction entries with
  | nil => rfl
  | cons entry entries ih => rw [ofEntries, ih, List.map_cons]

/-- A source file is found as its visit says. -/
lemma ofFile_eq_findings (h : IsEntryName name) (named : search.IsSourceName stem extension)
    (same : name = stem ++ '.' :: extension) :
    search.ofFile (roomBelow path) name bytes =
      (SourceFile.visit path ⟨[], stem, extension, bytes⟩).findings := by
  have place : SourceFile.place ⟨[], stem, extension, bytes⟩ = [name] := by rw [same]; rfl
  rw [ofFile, stem?_eq_some_iff.mpr ⟨extension, same, named⟩, SourceFile.visit, SourceFile.text?,
    place]
  by_cases inReach : InReach path [name]
  · have room : ¬ roomBelow path < byteLength name := fun less =>
      (roomBelow_lt_iff h).mp less inReach
    simp only [if_neg room, if_pos inReach]
    cases sourceText? bytes <;> rfl
  · simp only [if_pos ((roomBelow_lt_iff h).mpr inReach), if_neg inReach]
    rfl

/-- What is found in a file is gathered from the visit to it, if it is a source file. -/
lemma isGathered_ofFile (h : IsEntryName name) (bytes : List UInt8) :
    (search.ofFile (roomBelow path) name bytes).IsGathered
      (search.Visits path [(name, .file bytes)]) := by
  cases hstem : search.stem? name with
  | none =>
    have nothing : search.ofFile (roomBelow path) name bytes = .nothing := by rw [ofFile, hstem]
    rw [nothing]
    refine Findings.isGathered_nothing fun visit visits => ?_
    obtain ⟨stem, extension, same, named, -⟩ := visits_file_iff.mp visits
    rw [stem?_eq_some_iff.mpr ⟨extension, same, named⟩] at hstem
    cases hstem
  | some stem =>
    obtain ⟨extension, same, named⟩ := stem?_eq_some_iff.mp hstem
    rw [ofFile_eq_findings h named same]
    refine Findings.isGathered_findings fun visit => visits_file_iff.trans ⟨?_, ?_⟩
    · rintro ⟨stem', extension', same', named', rfl⟩
      obtain ⟨rfl, rfl⟩ := named'.eq_of_append_eq named (same'.symm.trans same)
      rfl
    · rintro rfl
      exact ⟨stem, extension, same, named, rfl⟩

/-- What is found in a directory of which nothing is known but its name. -/
lemma ofNode_directory (search : Search) (h : IsEntryName name) (path : Text) (inner : Entries) :
    search.ofNode (roomBelow path) name (.directory inner) =
      if search.passesOver name then .nothing
      else if InReach path [name] then search.ofDirectory (joined path name) inner
      else .unreadable := by
  rw [ofNode, ofDirectory, roomBelow_joined h]
  by_cases inReach : InReach path [name]
  · have room : ¬ roomBelow path < byteLength name := fun less =>
      (roomBelow_lt_iff h).mp less inReach
    rw [if_neg room, if_pos inReach]
  · rw [if_pos ((roomBelow_lt_iff h).mpr inReach), if_neg inReach]

/-- What is found in a directory is gathered from the visits in it, if it is entered and in reach,
and else from the visit to the directory itself, if it is entered. -/
lemma isGathered_directory (h : IsEntryName name)
    (gathered : (search.ofDirectory (joined path name) inner).IsGathered
      (search.Visits (joined path name) inner)) :
    (search.ofNode (roomBelow path) name (.directory inner)).IsGathered
      (search.Visits path [(name, .directory inner)]) := by
  rw [ofNode_directory search h]
  split_ifs with passed inReach
  · refine Findings.isGathered_nothing fun visit visits => ?_
    have entered : search.Enters [name] := (visits_directory_iff.mp visits).1
    rw [passesOver_eq_false_iff.mpr entered] at passed
    cases passed
  · have entered := passesOver_eq_false_iff.mp (Bool.eq_false_iff.mpr passed)
    refine (gathered.below name).congr fun visit => ?_
    rw [visits_directory_iff]
    simp [entered, inReach]
  · have entered := passesOver_eq_false_iff.mp (Bool.eq_false_iff.mpr passed)
    have only : Findings.unreadable = (Visit.skipped [name]).findings := rfl
    rw [only]
    refine Findings.isGathered_findings fun visit => ?_
    rw [visits_directory_iff]
    simp [entered, inReach]

/-- **A search finds what it comes across, in order.**

**Proof sketch.** Induction on the tree. What is found in an entry is gathered from the visits that
belong to it, in a directory by the induction hypothesis. All visits of the directory belong to one
of its entries, and the names of these are distinct. -/
theorem isGathered_ofDirectory (tree : entries.IsTree) (path : Text) :
    (search.ofDirectory path entries).IsGathered (search.Visits path entries) := by
  induction tree generalizing path with
  | @intro entries nodup names below ih =>
    have gathered : ∀ entry ∈ entries, (search.ofNode (roomBelow path) entry.1 entry.2).IsGathered
        (search.Visits path [entry]) := by
      rintro ⟨name, node⟩ mem
      cases node with
      | file bytes =>
        rw [ofNode]
        exact isGathered_ofFile (names _ mem) bytes
      | link target =>
        rw [ofNode]
        exact Findings.isGathered_nothing fun visit => not_visits_link target
      | directory inner => exact isGathered_directory (names _ mem) (ih name inner mem _)
    have first : ∀ entry ∈ entries, ∀ visit, search.Visits path [entry] visit →
        visit.place.head? = some entry.1 := fun entry _ visit visits => visits.head?_place
    rw [ofDirectory, ofEntries_eq_map]
    exact (Findings.isGathered_byName nodup gathered first).congr fun visit =>
      visits_iff_exists_mem.symm

end Search

/-- A search succeeds in every directory that a path leads to. -/
lemma FileSystem.found?_eq_some {fs : FileSystem} {path : Text} {entries : Entries}
    (opened : fs.opened? path = some entries) (search : Search) :
    fs.found? search path = some (search.ofDirectory path entries) := by
  rw [found?, opened, Option.map_some]

/-- What is found in a directory with nothing but a source file that is read. -/
lemma FileSystem.found?_single {fs : FileSystem} {search : Search} {path t : Text}
    {file : SourceFile} (opened : fs.opened? path = some [(file.name, .file file.bytes)])
    (h : IsEntryName file.name) (named : search.IsSourceName file.stem file.extension)
    (readAs : SourceFile.IsReadAs path ⟨[], file.stem, file.extension, file.bytes⟩ t) :
    fs.found? search path = some ⟨Todo.inText file.stem t, 1, 0⟩ := by
  have visited := SourceFile.visit_eq_read_iff.mpr ⟨rfl, readAs⟩
  rw [found?_eq_some opened, Search.ofDirectory, Search.ofEntries, Search.ofEntries, Search.ofNode,
    Search.ofFile_eq_findings h named rfl, visited, Findings.byName, List.mergeSort_singleton]
  simp [Visit.findings, Findings.append, Findings.nothing]

end Backlog
