import Backlog.Proofs.FindingParts
import Backlog.Proofs.FoundFiles
import Backlog.Proofs.LetterCase

set_option relaxedAutoImplicit false
set_option autoImplicit false

/-!
# Searches of the same tree

Searches of one tree for different things are compared by what they come across. A search that
passes over no directory comes across everything that a search for the same extensions comes across
otherwise. A search for the extensions of two lists comes across what the searches for each of them
come across. If no extension is in both lists, these have nothing in common but the directories that
are too deep to be read: a search skips these whatever it looks for, and the search for no extension
at all comes across nothing else.

So the number of skipped places is not quite the sum of the two numbers. The directories that are
too deep are counted in both.

## Main definitions

* `Backlog.AreApart`, `Backlog.AreAmong`, `Backlog.AreAlike` — lists of extensions that have none in
  common, one with those of the other, or the same ones.

## Main results

* `Backlog.Search.Visits.mono` — searches that come across more.
* `Backlog.Search.visits_append_iff`, `Backlog.Search.visits_and_iff` — what two searches come
  across, together and both.
* `Backlog.Search.isJoint_ofDirectory` — what is found for the extensions of two lists.
* `Backlog.Search.exists_found?_compared` — how the findings of searches are related.
* `Backlog.Search.not_skipped_add_nested` — a directory that two searches skip.
-/

namespace Backlog

open Text

/-! ## Lists of extensions -/

/-- No extension of the one list is one of the other, up to the case of ASCII letters. -/
def AreApart (extensions others : List Text) : Prop :=
  ∀ wanted ∈ extensions, ∀ other ∈ others, sameButForCase wanted other = false

/-- The extensions of the one list are among those of the other, up to the case of ASCII letters. -/
def AreAmong (extensions others : List Text) : Prop :=
  ∀ wanted ∈ extensions, ∃ other ∈ others, sameButForCase wanted other = true

/-- The two lists have the same extensions, up to the case of ASCII letters, in whatever order and
however often each one is repeated. -/
def AreAlike (extensions others : List Text) : Prop :=
  AreAmong extensions others ∧ AreAmong others extensions

instance (extensions others : List Text) : Decidable (AreApart extensions others) :=
  inferInstanceAs (Decidable (∀ _ ∈ _, _))

instance (extensions others : List Text) : Decidable (AreAmong extensions others) :=
  inferInstanceAs (Decidable (∀ _ ∈ _, _))

instance (extensions others : List Text) : Decidable (AreAlike extensions others) :=
  inferInstanceAs (Decidable (_ ∧ _))

/-- The extensions of a part of a list are among those of the list. -/
lemma areAmong_of_subset {extensions others : List Text} (h : extensions ⊆ others) :
    AreAmong extensions others := fun wanted mem => ⟨wanted, h mem, sameButForCase_iff.mpr rfl⟩

namespace Search

variable {search more : Search} {path name stem extension : Text} {above place : List Text}
  {entries : Entries} {extensions others : List Text} {ignored : Bool} {visit : Visit}
  {file : SourceFile}

/-- More extensions make more names those of source files. -/
lemma IsSourceName.of_areAmong (among : AreAmong extensions others)
    (h : IsSourceName ⟨extensions, ignored⟩ stem extension) :
    IsSourceName ⟨others, ignored⟩ stem extension := by
  obtain ⟨nonempty, undotted, wanted, mem, same⟩ := h
  obtain ⟨other, memOther, both⟩ := among wanted mem
  refine ⟨nonempty, undotted, other, memOther, sameButForCase_iff.mpr ?_⟩
  rw [← sameButForCase_iff.mp both, sameButForCase_iff.mp same]

/-- A name is that of a source file for two lists together if it is so for one of them. -/
lemma isSourceName_append_iff :
    IsSourceName ⟨extensions ++ others, ignored⟩ stem extension ↔
      IsSourceName ⟨extensions, ignored⟩ stem extension ∨
        IsSourceName ⟨others, ignored⟩ stem extension := by
  constructor
  · rintro ⟨nonempty, undotted, wanted, mem, same⟩
    exact (List.mem_append.mp mem).imp (fun left => ⟨nonempty, undotted, wanted, left, same⟩)
      fun right => ⟨nonempty, undotted, wanted, right, same⟩
  · rintro (named | named)
    · exact named.of_areAmong (areAmong_of_subset (List.subset_append_left _ _))
    · exact named.of_areAmong (areAmong_of_subset (List.subset_append_right _ _))

/-- No name is that of a source file for both lists, if they are apart. -/
lemma not_isSourceName_of_areApart (apart : AreApart extensions others)
    (h : IsSourceName ⟨extensions, ignored⟩ stem extension) :
    ¬ IsSourceName ⟨others, ignored⟩ stem extension := by
  intro h'
  obtain ⟨wanted, mem, same⟩ := h.wanted
  obtain ⟨other, memOther, sameOther⟩ := h'.wanted
  have both := (sameButForCase_iff.mp same).trans (sameButForCase_iff.mp sameOther).symm
  rw [← sameButForCase_iff, apart wanted mem other memOther] at both
  cases both

/-! ## What searches come across -/

/-- **A search comes across more** if it looks for more names and enters more directories. -/
lemma Visits.mono (visits : search.Visits path entries visit)
    (names : ∀ stem extension, search.IsSourceName stem extension →
      more.IsSourceName stem extension)
    (enters : ∀ name, search.Enters [name] → more.Enters [name]) :
    more.Visits path entries visit := by
  induction visits with
  | file top mem named => exact .file top mem (names _ _ named)
  | deep mem entered deep => exact .deep mem (enters _ entered) deep
  | inside mem entered inReach visits ih => exact .inside mem (enters _ entered) inReach ih

/-- A search for more extensions comes across more. -/
lemma Visits.of_areAmong (visits : Visits ⟨extensions, ignored⟩ path entries visit)
    (among : AreAmong extensions others) : Visits ⟨others, ignored⟩ path entries visit :=
  visits.mono (fun _ _ named => named.of_areAmong among) fun _ => id

/-- **Two lists together**: the search comes across what the searches for each list come across. -/
lemma visits_append_iff :
    Visits ⟨extensions ++ others, ignored⟩ path entries visit ↔
      Visits ⟨extensions, ignored⟩ path entries visit ∨
        Visits ⟨others, ignored⟩ path entries visit := by
  constructor
  · intro visits
    induction visits with
    | file top mem named =>
      exact (isSourceName_append_iff.mp named).imp (.file top mem) (.file top mem)
    | deep mem entered deep => exact .inl (.deep mem entered deep)
    | inside mem entered inReach visits ih =>
      exact ih.imp (.inside mem entered inReach) (.inside mem entered inReach)
  · rintro (visits | visits)
    · exact visits.of_areAmong (areAmong_of_subset (List.subset_append_left _ _))
    · exact visits.of_areAmong (areAmong_of_subset (List.subset_append_right _ _))

/-- Which directories are too deep does not depend on the extensions. -/
lemma IsTooDeep.of_extensions (deep : IsTooDeep ⟨extensions, ignored⟩ path entries above name)
    (others : List Text) : IsTooDeep ⟨others, ignored⟩ path entries above name :=
  ⟨deep.isDirectory, deep.entered, deep.reached, deep.deep⟩

/-- **A search for nothing** skips the directories that are too deep. -/
lemma isSkipped_nil_iff :
    IsSkipped ⟨[], ignored⟩ path entries place ↔
      ∃ above name, place = above ++ [name] ∧
        IsTooDeep ⟨extensions, ignored⟩ path entries above name := by
  constructor
  · rintro (⟨eligible, -, -⟩ | deep)
    · obtain ⟨wanted, mem, -⟩ := eligible.named.wanted
      cases mem
    · exact ⟨_, _, rfl, deep.of_extensions extensions⟩
  · rintro ⟨above, name, rfl, deep⟩
    exact .directory (deep.of_extensions [])

/-- **What two searches both come across**, for lists that are apart, is what the search for nothing
comes across.

**Proof sketch.** A file that both come across is one file, since its place tells which, and its
extension is in one of the lists only. No file is at the place of a directory. Only directories that
are too deep are left. -/
lemma visits_and_iff (tree : entries.IsTree) (reach : InReach path [])
    (apart : AreApart extensions others) :
    Visits ⟨extensions, ignored⟩ path entries visit ∧ Visits ⟨others, ignored⟩ path entries visit ↔
      Visits ⟨[], ignored⟩ path entries visit := by
  refine ⟨?_, fun visits => ⟨visits.of_areAmong nofun, visits.of_areAmong nofun⟩⟩
  rintro ⟨first, second⟩
  rw [visits_iff tree reach] at first second
  rcases first with ⟨file, eligible, -, rfl⟩ | ⟨above, name, deep, rfl⟩
  · rcases second with ⟨other, eligibleOther, -, same⟩ | ⟨above, name, deep, same⟩
    · -- Both files are source files for the two lists together, and at one place.
      have place := congrArg Visit.place same
      rw [SourceFile.place_visit, SourceFile.place_visit] at place
      have whole : IsEligible ⟨extensions ++ others, ignored⟩ entries file :=
        ⟨eligible.isFile, isSourceName_append_iff.mpr (.inl eligible.named), eligible.entered⟩
      have wholeOther : IsEligible ⟨extensions ++ others, ignored⟩ entries other :=
        ⟨eligibleOther.isFile, isSourceName_append_iff.mpr (.inr eligibleOther.named),
          eligibleOther.entered⟩
      obtain rfl := whole.eq_of_place_eq wholeOther place
      exact absurd eligibleOther.named (not_isSourceName_of_areApart apart eligible.named)
    · -- A skipped file has another place than a directory.
      have place := congrArg Visit.place same
      rw [SourceFile.place_visit, Visit.place] at place
      obtain ⟨inner, isDirectory⟩ := deep.isDirectory
      have node := eligible.isFile
      rw [place, isDirectory] at node
      cases node
  · exact visits_of_isTooDeep (deep.of_extensions [])

/-- The search for nothing reads nothing. -/
lemma findings_of_visits_nil (tree : entries.IsTree) (reach : InReach path [])
    (visits : Visits ⟨[], ignored⟩ path entries visit) : visit.findings = .unreadable := by
  rcases (visits_iff tree reach).mp visits with ⟨file, eligible, -, -⟩ | ⟨above, name, -, rfl⟩
  · obtain ⟨wanted, mem, -⟩ := eligible.named.wanted
    cases mem
  · rfl

/-! ## What searches find -/

/-- **A search that passes over nothing** finds what another search for the same extensions finds,
and perhaps more. -/
lemma isPartOf_ofDirectory (tree : entries.IsTree) (path : Text) (extensions : List Text) :
    (ofDirectory ⟨extensions, false⟩ path entries).IsPartOf
      (ofDirectory ⟨extensions, true⟩ path entries) :=
  (isGathered_ofDirectory tree path).isPartOf (isGathered_ofDirectory tree path) fun _ visits =>
    visits.mono (fun _ _ named => ⟨named.nonempty, named.undotted, named.wanted⟩) fun _ _ => nofun

/-- **What is found for the extensions of two lists** that are apart is put together from what is
found for each of them. The search for nothing finds what they share. -/
lemma isJoint_ofDirectory (tree : entries.IsTree) (reach : InReach path [])
    (apart : AreApart extensions others) (ignored : Bool) :
    (ofDirectory ⟨extensions ++ others, ignored⟩ path entries).IsJoint
      (ofDirectory ⟨extensions, ignored⟩ path entries)
      (ofDirectory ⟨others, ignored⟩ path entries) (ofDirectory ⟨[], ignored⟩ path entries) := by
  have gathered (search : Search) :
      (search.ofDirectory path entries).IsGathered (search.Visits path entries) :=
    isGathered_ofDirectory tree path
  refine ((gathered _).congr fun visit => visits_append_iff).isJoint (gathered _) (gathered _)
    ((gathered _).congr fun visit => (visits_and_iff tree reach apart).symm) fun visit h h' => ?_
  exact findings_of_visits_nil tree reach ((visits_and_iff tree reach apart).mp ⟨h, h'⟩)

/-- Searches for lists that are alike find the same. -/
lemma ofDirectory_eq_of_areAlike (tree : entries.IsTree) (path : Text)
    (alike : AreAlike extensions others) (ignored : Bool) :
    ofDirectory ⟨extensions, ignored⟩ path entries =
      ofDirectory ⟨others, ignored⟩ path entries := by
  refine Findings.IsGathered.unique ((isGathered_ofDirectory tree path).congr fun visit => ?_)
    (isGathered_ofDirectory tree path)
  exact ⟨fun visits => visits.of_areAmong alike.1, fun visits => visits.of_areAmong alike.2⟩

/-- A search for nothing skips as many places as there are directories that are too deep. -/
lemma exists_skipped_nil_eq (tree : entries.IsTree) (reach : InReach path [])
    (extensions : List Text) (ignored : Bool) :
    ∃ places : List (List Text), places.Nodup ∧
      (∀ place, place ∈ places ↔ ∃ above name, place = above ++ [name] ∧
        IsTooDeep ⟨extensions, ignored⟩ path entries above name) ∧
      (ofDirectory ⟨[], ignored⟩ path entries).skipped = places.length := by
  obtain ⟨-, places, nodup, mem, count⟩ := finds_ofDirectory ⟨[], ignored⟩ tree reach
  exact ⟨places, nodup, fun place => (mem place).trans isSkipped_nil_iff, count⟩

/-- **How the findings of searches are related.** Let the path lead to the directory of a tree. A
search that passes over directories finds a part of what the search for the same extensions finds
that passes over none. What is found for two lists that are apart is put together from what is found
for each of them, the todos in their order, and the numbers of files that are read are added. So are
the numbers of skipped places, but a directory that is too deep is counted for each list and only
once for both. Lists that are alike make no difference to what is found. -/
theorem exists_found?_compared {fs : FileSystem} (opened : fs.opened? path = some entries)
    (tree : entries.IsTree) :
    (∀ extensions, ∃ less more, fs.found? ⟨extensions, false⟩ path = some less ∧
        fs.found? ⟨extensions, true⟩ path = some more ∧ less.IsPartOf more) ∧
      (∀ extensions others ignored, AreApart extensions others →
        ∃ whole first second, fs.found? ⟨extensions ++ others, ignored⟩ path = some whole ∧
          fs.found? ⟨extensions, ignored⟩ path = some first ∧
          fs.found? ⟨others, ignored⟩ path = some second ∧
          IsInterleaving whole.todos first.todos second.todos ∧
          whole.scanned = first.scanned + second.scanned ∧
          ∃ places : List (List Text), places.Nodup ∧
            (∀ place, place ∈ places ↔ ∃ above name, place = above ++ [name] ∧
              IsTooDeep ⟨extensions ++ others, ignored⟩ path entries above name) ∧
            whole.skipped + places.length = first.skipped + second.skipped) ∧
      ∀ extensions others ignored, AreAlike extensions others →
        fs.found? ⟨extensions, ignored⟩ path = fs.found? ⟨others, ignored⟩ path := by
  have reach := FileSystem.inReach_of_opened? opened
  have found := FileSystem.found?_eq_some opened
  refine ⟨fun extensions => ⟨_, _, found _, found _, isPartOf_ofDirectory tree path extensions⟩,
    fun extensions others ignored apart => ?_, fun extensions others ignored alike => ?_⟩
  · obtain ⟨todos, scanned, skipped⟩ := isJoint_ofDirectory tree reach apart ignored
    obtain ⟨places, nodup, mem, count⟩ :=
      exists_skipped_nil_eq tree reach (extensions ++ others) ignored
    exact ⟨_, _, _, found _, found _, found _, todos, scanned, places, nodup, mem, count ▸ skipped⟩
  · rw [found, found, ofDirectory_eq_of_areAlike tree path alike]

/-- A tree with files of two kinds, one of which cannot be read, and a directory that is passed over
by one of the searches. -/
theorem exists_found?_compared_kinds :
    let entries : Entries := [("b.JS".toList, .file (toUtf8 "// TODO w; 2021; x\n".toList)),
      ("a.ts".toList, .file (toUtf8 "// todo: y".toList)), ("c.ts".toList, .file [255]),
      (".git".toList, .directory [("d.js".toList, .file [])])]
    let fs : FileSystem := ⟨[("t".toList, .directory entries)], []⟩
    let js := "js".toList
    let ts := "ts".toList
    (∃ less more, fs.found? ⟨[js], false⟩ "/t".toList = some less ∧
        fs.found? ⟨[js], true⟩ "/t".toList = some more ∧ less.IsPartOf more) ∧
      (∃ whole first second, fs.found? ⟨[js, ts], false⟩ "/t".toList = some whole ∧
        fs.found? ⟨[js], false⟩ "/t".toList = some first ∧
        fs.found? ⟨[ts], false⟩ "/t".toList = some second ∧
        IsInterleaving whole.todos first.todos second.todos ∧
        whole.scanned = first.scanned + second.scanned) ∧
      fs.found? ⟨[js, ts], false⟩ "/t".toList =
        fs.found? ⟨["TS".toList, "Js".toList, ts], false⟩ "/t".toList := by
  intro entries fs js ts
  have opened : fs.opened? "/t".toList = some entries :=
    FileSystem.opened?_top rfl ⟨by decide, by decide⟩ (by decide)
  have tree : entries.IsTree := by
    refine .intro (by decide) ?_ fun name inner mem => ?_
    · simp only [entries, List.forall_mem_cons]
      refine ⟨⟨?_, ?_⟩, ⟨?_, ?_⟩, ⟨?_, ?_⟩, ⟨?_, ?_⟩, List.forall_mem_nil _⟩ <;> decide
    · simp only [entries, List.mem_cons, Prod.mk.injEq, reduceCtorEq, and_false, false_or,
        Node.directory.injEq, List.not_mem_nil, or_false] at mem
      rw [mem.2]
      exact Entries.isTree_singleton ⟨by decide, by decide⟩ nofun
  obtain ⟨part, joint, alike⟩ := exists_found?_compared opened tree
  obtain ⟨whole, first, second, hwhole, hfirst, hsecond, todos, scanned, -⟩ :=
    joint [js] [ts] false (by decide)
  exact ⟨part [js], ⟨whole, first, second, hwhole, hfirst, hsecond, todos, scanned⟩,
    alike [js, ts] ["TS".toList, "Js".toList, ts] false (by decide)⟩

/-! ## What lies too deep -/

/-- **Two searches both skip a directory that is too deep**, so the numbers of skipped places do not
add up. -/
lemma not_skipped_add_of_isTooDeep {fs : FileSystem} (opened : fs.opened? path = some entries)
    (tree : entries.IsTree) (apart : AreApart extensions others)
    (deep : IsTooDeep ⟨extensions, ignored⟩ path entries above name) :
    ¬ ∃ whole first second, fs.found? ⟨extensions ++ others, ignored⟩ path = some whole ∧
      fs.found? ⟨extensions, ignored⟩ path = some first ∧
      fs.found? ⟨others, ignored⟩ path = some second ∧
      whole.skipped = first.skipped + second.skipped := by
  have reach := FileSystem.inReach_of_opened? opened
  rintro ⟨whole, first, second, hwhole, hfirst, hsecond, sum⟩
  simp only [FileSystem.found?_eq_some opened, Option.some.injEq] at hwhole hfirst hsecond
  subst hwhole hfirst hsecond
  obtain ⟨places, -, mem, count⟩ := exists_skipped_nil_eq tree reach extensions ignored
  have counted : 0 < places.length :=
    List.length_pos_of_mem ((mem (above ++ [name])).mpr ⟨above, name, rfl, deep⟩)
  have skipped := (isJoint_ofDirectory tree reach apart ignored).skipped
  omega

/-- The last of 16 directories, one in the other, whose names are as long as names may be, is
skipped by a search for one kind of files and by a search for another kind. -/
theorem not_skipped_add_nested :
    let name := List.replicate 255 'A'
    let entries := Entries.nested name [] 16
    let fs : FileSystem := ⟨[("t".toList, .directory entries)], []⟩
    let js := "js".toList
    let ts := "ts".toList
    fs.opened? "/t".toList = some entries ∧ entries.IsTree ∧ AreApart [js] [ts] ∧
      ¬ ∃ whole first second, fs.found? ⟨[js] ++ [ts], false⟩ "/t".toList = some whole ∧
        fs.found? ⟨[js], false⟩ "/t".toList = some first ∧
        fs.found? ⟨[ts], false⟩ "/t".toList = some second ∧
        whole.skipped = first.skipped + second.skipped := by
  intro name entries fs js ts
  have letter : 'A' ∈ name := List.mem_replicate.mpr ⟨by decide, rfl⟩
  have isName : IsEntryName name :=
    .of_mem letter (by decide) fun slash => absurd (List.eq_of_mem_replicate slash) (by decide)
  have opened : fs.opened? "/t".toList = some entries :=
    FileSystem.opened?_top rfl ⟨by decide, by decide⟩ (by decide)
  have tree : entries.IsTree := Entries.isTree_nested isName Entries.isTree_nil 16
  have apart : AreApart [js] [ts] := by decide
  have long : byteLength name = 255 := byteLength_replicate ..
  have room : roomBelow "/t".toList = 4092 := by decide
  have below : List.replicate 15 name ++ [name] = List.replicate 16 name :=
    List.replicate_succ'.symm
  have deep : IsTooDeep ⟨[js], false⟩ "/t".toList entries (List.replicate 15 name) name := by
    refine ⟨⟨[], ?_⟩, ?_, ?_, ?_⟩
    · rw [below, ← List.append_nil (List.replicate 16 name)]
      exact Entries.node?_nested name [] [] 16
    · intro _ other hother
      rw [below] at hother
      obtain rfl := List.eq_of_mem_replicate hother
      decide
    · rw [inReach_replicate_succ_iff isName, long, room]
      omega
    · rw [below, inReach_replicate_succ_iff isName, long, room]
      omega
  exact ⟨opened, tree, apart, not_skipped_add_of_isTooDeep opened tree apart deep⟩

end Search

end Backlog
