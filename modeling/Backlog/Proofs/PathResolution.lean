import Backlog.Proofs.TreePlaces
import Mathlib.Data.List.Induction

set_option relaxedAutoImplicit false
set_option autoImplicit false

/-!
# The places that paths lead to

Which place a path leads to is described step by step: staying, rising, entering what is no link,
and going on along a link. The description knows no faults; a path at fault leads nowhere.

A path may lead along links, but the place where it ends has none on its way. So the path that is
made of the names of the place leads there again, and it opens the directory that is there.

## Main definitions

* `Backlog.Admits` — a step that may be taken to an entry.
* `Backlog.Entries.Leads` — the places that steps lead to.
* `Backlog.FileSystem.LeadsTo` — the places that paths lead to.
* `Backlog.Entries.IsPlace` — a place that has a path of its own, without links.
* `Backlog.FileSystem.IsProper` — the root is a tree, and one can work in the working directory.

## Main results

* `Backlog.Entries.follow_eq_ok_iff` — following steps finds the place that they lead to.
* `Backlog.Entries.Leads.isPlace` — steps lead to places that have paths of their own.
* `Backlog.FileSystem.LeadsTo.opened?_absolutePath` — the path of a place leads there again and
  opens the directory that is there.
* `Backlog.FileSystem.opened?_top` — what the path of a directory in the root opens.
-/

namespace Backlog

open Text

variable {root entries : Entries} {allowed : List Text → Bool} {links : ℕ}
  {here place further steps : List Text} {step name path : Text}

/-! ## Steps -/

/-- The step may be taken to an entry: it names one, it is not too long, and the place behind it is
admitted. -/
structure Admits (allowed : List Text → Bool) (here : List Text) (step : Text) : Prop where
  isName : isName step = true
  short : byteLength step ≤ maxNameBytes
  admitted : allowed (here ++ [step]) = true

namespace Entries

/-- **The steps lead from a place to another one**, along at most the given number of links. Every
step starts in a directory. It stays there, rises to the directory above, enters an entry that is no
link, or goes on along a link with the steps of its target. -/
inductive Leads (root : Entries) (allowed : List Text → Bool) :
    ℕ → List Text → List Text → List Text → Prop
  | done {links : ℕ} {here : List Text} : Leads root allowed links here [] here
  | stay {links : ℕ} {here rest place : List Text} {step : Text} {entries : Entries}
      (isDirectory : root.node? here = some (.directory entries)) (stays : step = [] ∨ step = ['.'])
      (later : Leads root allowed links here rest place) :
      Leads root allowed links here (step :: rest) place
  | rise {links : ℕ} {here rest place : List Text} {entries : Entries}
      (isDirectory : root.node? here = some (.directory entries))
      (later : Leads root allowed links here.dropLast rest place) :
      Leads root allowed links here (['.', '.'] :: rest) place
  | enter {links : ℕ} {here rest place : List Text} {step : Text} {entries : Entries} {node : Node}
      (isDirectory : root.node? here = some (.directory entries))
      (admits : Admits allowed here step) (lookup : entries.lookup step = some node)
      (noLink : ∀ target, node ≠ .link target)
      (later : Leads root allowed links (here ++ [step]) rest place) :
      Leads root allowed links here (step :: rest) place
  | link {links : ℕ} {here rest place : List Text} {step target : Text} {entries : Entries}
      (isDirectory : root.node? here = some (.directory entries))
      (admits : Admits allowed here step) (lookup : entries.lookup step = some (.link target))
      (later : Leads root allowed links (if isAbsolute target then [] else here)
        (stepsOf target ++ rest) place) :
      Leads root allowed (links + 1) here (step :: rest) place

/-- A step that is no name stays or rises. -/
lemma isName_eq_true_iff :
    isName step = true ↔ ¬ (step = [] ∨ step = ['.']) ∧ step ≠ ['.', '.'] := by
  simp [isName, and_assoc]

/-- A step that neither stays nor rises may be taken if nothing speaks against it. -/
lemma admits_of_not (stays : ¬ (step = [] ∨ step = ['.'])) (rises : step ≠ ['.', '.'])
    (long : ¬ maxNameBytes < byteLength step)
    (refused : ¬ (isName step && !allowed (here ++ [step])) = true) : Admits allowed here step := by
  have isName := isName_eq_true_iff.mpr ⟨stays, rises⟩
  rw [isName, Bool.true_and, Bool.not_eq_true, Bool.not_eq_false'] at refused
  exact ⟨isName, Nat.not_lt.mp long, refused⟩

/-- Where following steps ends, they lead to. -/
lemma leads_of_follow (h : root.follow allowed links here steps = .ok place) :
    root.Leads allowed links here steps place := by
  fun_induction follow root allowed links here steps with
  | case1 links here =>
    cases h
    exact .done
  | case4 links here step rest refused entries opened stays ih =>
    exact .stay (bind_entries?_eq_some_iff.mp opened) stays (ih h)
  | case5 links here rest entries opened _ _ ih =>
    exact .rise (bind_entries?_eq_some_iff.mp opened) (ih h)
  | case9 here step rest refused entries opened stays rises long target lookup links ih =>
    exact .link (bind_entries?_eq_some_iff.mp opened) (admits_of_not stays rises long refused)
      lookup (ih h)
  | case10 links here step rest refused entries opened stays rises long node noLink lookup ih =>
    exact .enter (bind_entries?_eq_some_iff.mp opened) (admits_of_not stays rises long refused)
      lookup noLink (ih h)
  | case2 | case3 | case6 | case7 | case8 => cases h -- the faults

/-- Following steps ends where they lead to. -/
lemma Leads.follow_eq (leads : root.Leads allowed links here steps place) :
    root.follow allowed links here steps = .ok place := by
  induction leads with
  | done => rw [follow]
  | @stay links here rest place step entries isDirectory stays later ih =>
    have unnamed : isName step = false := by rcases stays with rfl | rfl <;> rfl
    rw [follow, unnamed, bind_entries?_eq_some_iff.mpr isDirectory]
    simpa only [Bool.false_and, Bool.false_eq_true, if_false, if_pos stays] using ih
  | rise isDirectory later ih =>
    have unnamed : isName ['.', '.'] = false := rfl
    rw [follow, unnamed, bind_entries?_eq_some_iff.mpr isDirectory]
    simpa using ih
  | enter isDirectory admits lookup noLink later ih | link isDirectory admits lookup later ih =>
    obtain ⟨noStay, noRise⟩ := isName_eq_true_iff.mp admits.isName
    rw [follow, admits.admitted, bind_entries?_eq_some_iff.mpr isDirectory]
    simpa only [Bool.not_true, Bool.and_false, Bool.false_eq_true, if_false, if_neg noStay,
      if_neg noRise, if_neg (Nat.not_lt.mpr admits.short), lookup] using ih

/-- **Following steps finds the place that they lead to**, and fails if they lead nowhere. -/
theorem follow_eq_ok_iff :
    root.follow allowed links here steps = .ok place ↔
      root.Leads allowed links here steps place :=
  ⟨leads_of_follow, Leads.follow_eq⟩

/-! ## Places with paths of their own -/

/-- A node in a directory is what its name leads to from there. -/
lemma node?_concat (root : Entries) (here : List Text) (name : Text) :
    root.node? (here ++ [name]) = ((root.node? here).bind Node.entries?).bind (·.lookup name) := by
  induction here generalizing root with
  | nil => rfl
  | cons first here ih =>
    cases here with
    | nil => rfl
    | cons second here =>
      rw [List.cons_append, node?, node?]
      · rcases (root.lookup first).bind Node.entries? with - | inner
        · rfl
        · exact ih inner
      · exact List.cons_ne_nil _ _
      · exact List.cons_ne_nil _ _

/-- **A place has a path of its own**: a node that is no link is there, and neither a name on the
way nor the path of the place is too long. -/
structure IsPlace (root : Entries) (place : List Text) : Prop where
  node : ∃ node, root.node? place = some node ∧ ∀ target, node ≠ .link target
  short : ∀ name ∈ place, byteLength name ≤ maxNameBytes
  path : hasPath place = true

/-- The root has a path of its own. -/
lemma isPlace_nil (root : Entries) : root.IsPlace [] :=
  ⟨⟨_, rfl, nofun⟩, List.forall_mem_nil _, by decide⟩

/-- The path of a place is longer than that of the directory above. -/
lemma byteLength_absolutePath_le (here : List Text) (name : Text) :
    byteLength (absolutePath here) ≤ byteLength (absolutePath (here ++ [name])) := by
  cases here with
  | nil =>
    have path : absolutePath ([] ++ [name]) = ['/'] ++ name := by simp [absolutePath]
    rw [path, byteLength_append]
    exact Nat.le_add_right _ _
  | cons first here =>
    have path : absolutePath (first :: here ++ [name]) =
        absolutePath (first :: here) ++ '/' :: name := by simp [absolutePath]
    rw [path, byteLength_append]
    exact Nat.le_add_right _ _

/-- The directory above a place has a path of its own. -/
lemma IsPlace.of_concat (h : root.IsPlace (here ++ [name])) :
    root.IsPlace here ∧ ∃ entries, root.node? here = some (.directory entries) := by
  obtain ⟨⟨node, hnode, -⟩, short, path⟩ := h
  rw [node?_concat] at hnode
  obtain ⟨entries, hentries, -⟩ := Option.bind_eq_some_iff.mp hnode
  have isDirectory := bind_entries?_eq_some_iff.mp hentries
  refine ⟨⟨⟨_, isDirectory, nofun⟩, fun name mem => short name (List.mem_append_left _ mem), ?_⟩, _,
    isDirectory⟩
  have above := byteLength_absolutePath_le here name
  simp only [hasPath, decide_eq_true_eq] at path ⊢
  omega

/-- The directory above the place has a path of its own, or the place is the root. -/
lemma IsPlace.dropLast (h : root.IsPlace here) : root.IsPlace here.dropLast := by
  rcases List.eq_nil_or_concat' here with rfl | ⟨above, name, rfl⟩
  · exact h
  · rw [List.dropLast_concat]
    exact h.of_concat.1

/-- All places on the way have paths of their own. -/
lemma IsPlace.of_append (h : root.IsPlace (here ++ further)) : root.IsPlace here := by
  induction further using List.reverseRecOn with
  | nil => rwa [List.append_nil] at h
  | append_singleton further name ih =>
    rw [← List.append_assoc] at h
    exact ih h.of_concat.1

/-- **Steps lead to places that have paths of their own.**

**Proof sketch.** Induction on the steps. Each of them starts at such a place and leads to such a
place: the one above, that of an entry that is no link and whose path is short enough, or, along a
link, one where the steps of the target start. -/
theorem Leads.isPlace (leads : root.Leads hasPath links here steps place)
    (start : root.IsPlace here) : root.IsPlace place := by
  induction leads with
  | done => exact start
  | stay isDirectory stays later ih => exact ih start
  | rise isDirectory later ih => exact ih start.dropLast
  | @enter links here rest place step entries node isDirectory admits lookup noLink later ih =>
    have entered : root.node? (here ++ [step]) = some node := by
      rw [node?_concat, bind_entries?_eq_some_iff.mpr isDirectory]
      exact lookup
    refine ih ⟨⟨node, entered, noLink⟩, fun name mem => ?_, admits.admitted⟩
    rcases List.mem_append.mp mem with mem | mem
    · exact start.short name mem
    · rw [List.mem_singleton.mp mem]
      exact admits.short
  | link isDirectory admits lookup later ih =>
    refine ih ?_
    split_ifs
    · exact isPlace_nil root
    · exact start

/-! ## The path of a place -/

/-- The directories of a tree are trees. -/
lemma IsTree.of_node? (tree : root.IsTree) (h : root.node? place = some (.directory entries)) :
    entries.IsTree := by
  induction place using List.reverseRecOn generalizing entries with
  | nil =>
    cases h
    exact tree
  | append_singleton above name ih =>
    rw [node?_concat] at h
    obtain ⟨outer, houter, lookup⟩ := Option.bind_eq_some_iff.mp h
    exact (ih (bind_entries?_eq_some_iff.mp houter)).of_directory (mem_of_lookup_eq_some lookup)

/-- The last name on the way to a place is the name of an entry that is no link. -/
lemma IsPlace.exists_entry (tree : root.IsTree) (h : root.IsPlace (here ++ [name])) :
    ∃ entries node, root.node? here = some (.directory entries) ∧
      entries.lookup name = some node ∧ (∀ target, node ≠ .link target) ∧ IsEntryName name := by
  obtain ⟨-, entries, isDirectory⟩ := h.of_concat
  obtain ⟨node, hnode, noLink⟩ := h.node
  rw [node?_concat, bind_entries?_eq_some_iff.mpr isDirectory] at hnode
  exact ⟨entries, node, isDirectory, hnode, noLink,
    (tree.of_node? isDirectory).isEntryName (mem_of_lookup_eq_some hnode)⟩

/-- The names on the way to a place have no slashes. -/
lemma IsPlace.slash_notMem (tree : root.IsTree) (h : root.IsPlace place) :
    ∀ name ∈ place, '/' ∉ name := by
  induction place using List.reverseRecOn with
  | nil => exact List.forall_mem_nil _
  | append_singleton above name ih =>
    obtain ⟨-, -, -, -, -, isEntryName⟩ := h.exists_entry tree
    intro other mem
    rcases List.mem_append.mp mem with mem | mem
    · exact ih h.of_append other mem
    · rw [List.mem_singleton.mp mem]
      exact isEntryName.slash

/-- **The names of a place lead to it**, along no links.

**Proof sketch.** Induction on the names. Each of them is entered: it is the name of an entry, and
this is no link, since a node stands at the place behind it that is none. -/
lemma IsPlace.leads (tree : root.IsTree) (h : root.IsPlace (here ++ further)) (links : ℕ) :
    root.Leads (fun _ => true) links here further (here ++ further) := by
  induction further generalizing here with
  | nil =>
    rw [List.append_nil]
    exact .done
  | cons name further ih =>
    rw [List.append_cons] at h ⊢
    have next : root.IsPlace (here ++ [name]) := h.of_append
    obtain ⟨entries, node, isDirectory, lookup, noLink, isEntryName⟩ := next.exists_entry tree
    have short := next.short name (List.mem_append_right _ List.mem_cons_self)
    exact .enter isDirectory ⟨isEntryName.isName, short, rfl⟩ lookup noLink (ih h)

end Entries

/-- The steps of the path of a place are an empty one, which stays in the root, and the names. -/
lemma stepsOf_absolutePath (slashes : ∀ name ∈ place, '/' ∉ name) (h : place ≠ []) :
    stepsOf (absolutePath place) = [] :: place := by
  have joined (first : Text) (place : List Text) :
      ['/'].intercalate (first :: place) = first ++ place.flatMap ('/' :: ·) := by
    induction place generalizing first with
    | nil => simp
    | cons name place ih =>
      rw [List.intercalate_cons_cons, ih, List.flatMap_cons]
      simp
  obtain ⟨name, rest, rfl⟩ := List.exists_cons_of_ne_nil h
  have path : absolutePath (name :: rest) = ['/'].intercalate ([] :: name :: rest) :=
    (joined [] (name :: rest)).symm
  rw [path, stepsOf]
  exact List.splitOn_intercalate '/' (List.forall_mem_cons.mpr ⟨List.not_mem_nil, slashes⟩)
    (List.cons_ne_nil _ _)

/-! ## File systems -/

namespace FileSystem

variable {fs : FileSystem}

/-- **The path leads to the place**: it is not empty, and its steps lead to the place from where it
starts. -/
structure LeadsTo (fs : FileSystem) (path : Text) (place : List Text) : Prop where
  nonempty : path ≠ []
  leads : fs.root.Leads hasPath maxLinks (fs.startOf path) (stepsOf path) place

/-- A path is resolved to the place that it leads to. -/
lemma resolve_eq_ok_iff : fs.resolve path = .ok place ↔ fs.LeadsTo path place := by
  unfold resolve
  split_ifs with empty
  · exact iff_of_false nofun fun leads => leads.nonempty empty
  · rw [Entries.follow_eq_ok_iff]
    exact ⟨fun leads => ⟨empty, leads⟩, LeadsTo.leads⟩

/-- **A file system in which one can work**: the root is a tree, and the working directory has a
path of its own. -/
structure IsProper (fs : FileSystem) : Prop where
  tree : fs.root.IsTree
  working : fs.root.IsPlace fs.workingDirectory

/-- Paths lead to places that have paths of their own. -/
lemma LeadsTo.isPlace (proper : fs.IsProper) (leads : fs.LeadsTo path place) :
    fs.root.IsPlace place := by
  refine leads.leads.isPlace ?_
  unfold startOf
  split_ifs
  · exact Entries.isPlace_nil fs.root
  · exact proper.working

/-- The path of a place leads to it from the root. -/
lemma leads_absolutePath (proper : fs.IsProper) (h : fs.root.IsPlace place) (links : ℕ) :
    fs.root.Leads (fun _ => true) links (fs.startOf (absolutePath place))
      (stepsOf (absolutePath place)) place := by
  have root : fs.root.node? [] = some (.directory fs.root) := rfl
  rcases eq_or_ne place [] with rfl | nonempty
  · exact .stay root (.inl rfl) (.stay root (.inl rfl) .done)
  · have start : fs.startOf (absolutePath place) = [] := by
      obtain ⟨name, rest, rfl⟩ := List.exists_cons_of_ne_nil nonempty
      rfl
    have whole : fs.root.IsPlace ([] ++ place) := h
    rw [start, stepsOf_absolutePath (h.slash_notMem proper.tree) nonempty]
    exact .stay root (.inl rfl) (whole.leads proper.tree links)

/-- The path of a place is not empty. -/
lemma absolutePath_ne_nil (place : List Text) : absolutePath place ≠ [] := by
  cases place <;> exact List.cons_ne_nil _ _

/-- **The path of a place opens the directory that is there**, if any path leads there. -/
theorem LeadsTo.opened?_absolutePath (proper : fs.IsProper) (leads : fs.LeadsTo path place) :
    fs.opened? (absolutePath place) = fs.directory? place := by
  have isPlace := leads.isPlace proper
  have short : ¬ maxPathBytes < byteLength (absolutePath place) :=
    Nat.not_lt.mpr (of_decide_eq_true isPlace.path)
  have followed := Entries.follow_eq_ok_iff.mpr (leads_absolutePath proper isPlace maxLinks)
  rw [opened?, if_neg (not_or.mpr ⟨absolutePath_ne_nil place, short⟩), followed]
  rfl

/-- A directory in the root is opened by its name behind a slash. -/
lemma opened?_top (lookup : fs.root.lookup name = some (.directory entries)) (h : IsEntryName name)
    (short : byteLength name ≤ maxNameBytes) : fs.opened? ('/' :: name) = some entries := by
  have path : '/' :: name = absolutePath [name] := by simp [absolutePath]
  have steps : stepsOf ('/' :: name) = [[], name] := by
    rw [path, stepsOf_absolutePath (List.forall_mem_singleton.mpr h.slash) (List.cons_ne_nil _ _)]
  have root : fs.root.node? [] = some (.directory fs.root) := rfl
  have leads : fs.root.Leads (fun _ => true) maxLinks [] [[], name] [name] :=
    .stay root (.inl rfl) (.enter root ⟨h.isName, short, rfl⟩ lookup nofun .done)
  have length : byteLength ('/' :: name) = 1 + byteLength name := rfl
  have start : fs.startOf ('/' :: name) = [] := rfl
  have short : ¬ maxPathBytes < byteLength ('/' :: name) := by
    unfold maxNameBytes at short
    unfold maxPathBytes
    omega
  have node : fs.root.node? [name] = some (.directory entries) := lookup
  rw [opened?, if_neg (not_or.mpr ⟨List.cons_ne_nil _ _, short⟩), steps, start,
    Entries.follow_eq_ok_iff.mpr leads]
  exact Entries.bind_entries?_eq_some_iff.mpr node

end FileSystem

end Backlog
