import Backlog.Proofs.TodoComparison
import Backlog.Source.Search
import Mathlib.Data.List.Perm.Basic
import Mathlib.Data.List.Nodup

set_option relaxedAutoImplicit false
set_option autoImplicit false

/-!
# Visits in the order of their places

A search comes across source files that it reads and across entries that it cannot read. What it
finds is what it finds at these visits, put together in the order of their places: place by place
the names on the way are compared, the outermost first. There is only one such order, so what is
found depends on the visits alone.

Directories are gone through one by one, and each is sorted by itself. This gives the same order,
because all places below one name stand together.

## Main definitions

* `Backlog.SourceFile` — a source file at its place.
* `Backlog.Visit` — what a search comes across.
* `Backlog.Findings.IsGathered` — findings are those of some visits, in order.

## Main results

* `Backlog.Findings.IsGathered.unique` — the visits decide what is found.
* `Backlog.Findings.isGathered_byName` — what is gathered below each name of a directory is gathered
  in the directory.
-/

namespace Backlog

/-! ## Visits -/

/-- A source file: the names of the directories above it, the two parts of its own name, and its
bytes. -/
structure SourceFile where
  above : List Text
  stem : Text
  extension : Text
  bytes : List UInt8
deriving DecidableEq

namespace SourceFile

/-- The name of the file. A dot stands between its parts. -/
def name (file : SourceFile) : Text := file.stem ++ '.' :: file.extension

/-- The names on the way to the file, its own name last. -/
def place (file : SourceFile) : List Text := file.above ++ [file.name]

/-- The file as seen from the directory above. -/
def below (name : Text) (file : SourceFile) : SourceFile :=
  { file with above := name :: file.above }

/-- Seen from above, the name of the directory comes first on the way to the file. -/
lemma place_below (name : Text) (file : SourceFile) :
    (file.below name).place = name :: file.place := rfl

end SourceFile

/-- What a search comes across: a source file that is read as a text, or an entry at a place that
cannot be read. -/
inductive Visit
  | read (file : SourceFile) (t : Text)
  | skipped (place : List Text)
deriving DecidableEq

namespace Visit

/-- Where the visit takes place. -/
def place : Visit → List Text
  | read file _ => file.place
  | skipped place => place

/-- What is found at the visit. -/
def findings : Visit → Findings
  | read file t => ⟨Todo.inText file.stem t, 1, 0⟩
  | skipped _ => .unreadable

/-- The visit as seen from the directory above. -/
def below (name : Text) : Visit → Visit
  | read file t => read (file.below name) t
  | skipped place => skipped (name :: place)

@[simp] lemma place_below (name : Text) (visit : Visit) :
    (visit.below name).place = name :: visit.place := by
  cases visit <;> rfl

@[simp] lemma findings_below (name : Text) (visit : Visit) :
    (visit.below name).findings = visit.findings := by
  cases visit <;> rfl

/-- The place of the one visit comes before that of the other. -/
def Before (a b : Visit) : Prop := compare a.place b.place = .lt

/-- Visits below the same name are in the order in which they are there. -/
lemma before_below_iff {name : Text} {a b : Visit} :
    (a.below name).Before (b.below name) ↔ a.Before b := by
  rw [Before, place_below, place_below, List.compare_cons_cons, Std.ReflOrd.compare_self]
  rfl

/-- Visits below two names are in the order of the names. -/
lemma before_of_head? {a b : Visit} {first second : Text} (ha : a.place.head? = some first)
    (hb : b.place.head? = some second) (h : compare first second = .lt) : a.Before b := by
  obtain ⟨restA, placeA⟩ := List.head?_eq_some_iff.mp ha
  obtain ⟨restB, placeB⟩ := List.head?_eq_some_iff.mp hb
  rw [Before, placeA, placeB, List.compare_cons_cons, h]
  rfl

/-- No visit comes before itself. -/
lemma Before.ne {a b : Visit} (h : a.Before b) : a ≠ b := by
  rintro rfl
  rw [Before, Std.ReflOrd.compare_self] at h
  cases h

/-- Of two visits at most one comes before the other. -/
lemma Before.asymm {a b : Visit} (h : a.Before b) : ¬ b.Before a := by
  intro back
  rw [Before, Std.OrientedOrd.eq_swap, h] at back
  cases back

/-- The source file that is read at the visit, and its text. -/
def source? : Visit → Option (SourceFile × Text)
  | read file t => some (file, t)
  | skipped _ => none

/-- The place of the visit if it is skipped. -/
def unread? : Visit → Option (List Text)
  | read _ _ => none
  | skipped place => some place

/-- Only the visit that reads a source file has it. -/
lemma source?_eq_some_iff {visit : Visit} {source : SourceFile × Text} :
    visit.source? = some source ↔ visit = read source.1 source.2 := by
  cases visit <;> simp [source?, Prod.ext_iff]

/-- Only the visit that skips a place has it. -/
lemma unread?_eq_some_iff {visit : Visit} {place : List Text} :
    visit.unread? = some place ↔ visit = skipped place := by
  cases visit <;> simp [unread?]

end Visit

/-! ## Gathering -/

namespace Findings

variable {found other : Findings} {P Q : Visit → Prop}

/-- The findings one after the other. -/
def total (parts : List Findings) : Findings := parts.foldr append nothing

/-- What is found in several places and in several others is found in all of them. -/
lemma total_append (parts others : List Findings) :
    total (parts ++ others) = (total parts).append (total others) := by
  induction parts with
  | nil => simp [total, append, nothing]
  | cons part parts ih =>
    have first (parts : List Findings) : total (part :: parts) = part.append (total parts) := rfl
    rw [List.cons_append, first, first, ih]
    simp [append, Nat.add_assoc]

/-- What is found at some visits: the todos of the texts that are read, the number of these, and the
number of the visits that are skipped. -/
lemma total_findings (visits : List Visit) :
    total (visits.map Visit.findings) =
      ⟨(visits.filterMap Visit.source?).flatMap fun source => Todo.inText source.1.stem source.2,
        (visits.filterMap Visit.source?).length, (visits.filterMap Visit.unread?).length⟩ := by
  induction visits with
  | nil => rfl
  | cons visit visits ih =>
    have first : total ((visit :: visits).map Visit.findings) =
      visit.findings.append (total (visits.map Visit.findings)) := rfl
    rw [first, ih, List.filterMap_cons, List.filterMap_cons]
    cases visit <;>
      simp [Visit.findings, Visit.source?, Visit.unread?, append, unreadable, Nat.add_comm]

/-- The findings are those of the visits with the property, in the order of their places. -/
def IsGathered (P : Visit → Prop) (found : Findings) : Prop :=
  ∃ visits : List Visit, (∀ visit, visit ∈ visits ↔ P visit) ∧ visits.Pairwise Visit.Before ∧
    found = total (visits.map Visit.findings)

/-- Only the visits matter, not how they are described. -/
lemma IsGathered.congr (h : found.IsGathered P) (same : ∀ visit, P visit ↔ Q visit) :
    found.IsGathered Q := by
  obtain ⟨visits, mem, ordered, rfl⟩ := h
  exact ⟨visits, fun visit => (mem visit).trans (same visit), ordered, rfl⟩

/-- Without visits nothing is found. -/
lemma isGathered_nothing (none : ∀ visit, ¬ P visit) : nothing.IsGathered P :=
  ⟨[], fun visit => by simp [none visit], List.Pairwise.nil, rfl⟩

/-- What is found at the only visit is all that is found. -/
lemma isGathered_findings {visit : Visit} (only : ∀ other, P other ↔ other = visit) :
    visit.findings.IsGathered P := by
  refine ⟨[visit], fun other => ?_, List.pairwise_singleton _ _, ?_⟩
  · rw [List.mem_singleton, only]
  · simp [total, append, nothing]

/-- What is gathered from some visits and from others behind them is gathered from all. -/
lemma IsGathered.append (h : found.IsGathered P) (hother : other.IsGathered Q)
    (before : ∀ a b, P a → Q b → a.Before b) :
    (found.append other).IsGathered fun visit => P visit ∨ Q visit := by
  obtain ⟨visits, mem, ordered, rfl⟩ := h
  obtain ⟨others, memOther, orderedOther, rfl⟩ := hother
  refine ⟨visits ++ others, fun visit => ?_, ?_, ?_⟩
  · rw [List.mem_append, mem, memOther]
  · rw [List.pairwise_append]
    exact ⟨ordered, orderedOther, fun a ha b hb => before a b ((mem a).mp ha) ((memOther b).mp hb)⟩
  · rw [List.map_append, total_append]

/-- What is gathered in a directory is found below its name. -/
lemma IsGathered.below (h : found.IsGathered P) (name : Text) :
    found.IsGathered fun visit => ∃ inner, P inner ∧ visit = inner.below name := by
  obtain ⟨visits, mem, ordered, rfl⟩ := h
  refine ⟨visits.map (Visit.below name), fun visit => ?_, ?_, ?_⟩
  · simp only [List.mem_map, mem, eq_comm]
  · exact List.pairwise_map.mpr (ordered.imp fun before => Visit.before_below_iff.mpr before)
  · rw [List.map_map]
    exact congrArg total (List.map_congr_left fun visit _ => (Visit.findings_below name visit).symm)

/-- **The visits decide what is found.**

**Proof sketch.** No visit occurs twice in a list that is ordered by places, so two lists with the
same visits are permutations of each other. Ordered lists with the same elements are equal. -/
lemma IsGathered.unique (h : found.IsGathered P) (hother : other.IsGathered P) : found = other := by
  obtain ⟨visits, mem, ordered, rfl⟩ := h
  obtain ⟨others, memOther, orderedOther, rfl⟩ := hother
  have nodup : visits.Nodup := ordered.imp fun before => before.ne
  have nodupOther : others.Nodup := orderedOther.imp fun before => before.ne
  have perm : visits.Perm others :=
    (List.perm_ext_iff_of_nodup nodup nodupOther).mpr fun visit => (mem visit).trans
      (memOther visit).symm
  have same : visits = others := by
    refine perm.eq_of_pairwise (fun a b _ _ hab hba => ?_) ordered orderedOther
    exact absurd hba hab.asymm
  rw [same]

/-! ## Directories -/

/-- What is gathered below each of some names in increasing order is gathered below all of them.

**Proof sketch.** Induction on the names. What is below the first name comes before all that is
below the others. -/
lemma isGathered_total {α : Type} {key : α → Text} {part : α → Findings} {P : α → Visit → Prop}
    {entries : List α} (increasing : entries.Pairwise fun a b => compare (key a) (key b) = .lt)
    (gathered : ∀ entry ∈ entries, (part entry).IsGathered (P entry))
    (first : ∀ entry ∈ entries, ∀ visit, P entry visit → visit.place.head? = some (key entry)) :
    (total (entries.map part)).IsGathered fun visit => ∃ entry ∈ entries, P entry visit := by
  induction entries with
  | nil => exact isGathered_nothing fun visit => by simp
  | cons entry entries ih =>
    rw [List.pairwise_cons] at increasing
    rw [List.forall_mem_cons] at gathered first
    have later := ih increasing.2 gathered.2 first.2
    have before : ∀ a b, P entry a → (∃ entry ∈ entries, P entry b) → a.Before b := by
      rintro a b ha ⟨second, hsecond, hb⟩
      exact Visit.before_of_head? (first.1 a ha) (first.2 second hsecond b hb)
        (increasing.1 second hsecond)
    refine (gathered.1.append later before).congr fun visit => ?_
    rw [List.exists_mem_cons_iff]

/-- **What is gathered below each name of a directory is gathered in the directory**, if the names
are distinct.

**Proof sketch.** Sorted by name the entries are in increasing order, since no two names are equal,
and they are the same entries. -/
lemma isGathered_byName {α : Type} {key : α → Text} {part : α → Findings} {P : α → Visit → Prop}
    {entries : List α} (distinct : (entries.map key).Nodup)
    (gathered : ∀ entry ∈ entries, (part entry).IsGathered (P entry))
    (first : ∀ entry ∈ entries, ∀ visit, P entry visit → visit.place.head? = some (key entry)) :
    (byName (entries.map fun entry => (key entry, part entry))).IsGathered
      fun visit => ∃ entry ∈ entries, P entry visit := by
  set sorted := sortBy (fun a b => compare (key a) (key b)) entries with hsorted
  have mem (entry : α) : entry ∈ sorted ↔ entry ∈ entries :=
    (sortBy_perm _ entries).mem_iff
  have found : byName (entries.map fun entry => (key entry, part entry)) =
      total (sorted.map part) := by
    have names : (entries.map fun entry => (key entry, part entry)).mergeSort
        (fun a b => (compare a.1 b.1).isLE) = sorted.map fun entry => (key entry, part entry) :=
      (List.map_mergeSort (r := fun a b => (compare (key a) (key b)).isLE) fun a _ b _ => rfl).symm
    rw [byName, names, List.map_map]
    rfl
  have increasing : sorted.Pairwise fun a b => compare (key a) (key b) = .lt := by
    have : Std.TransCmp fun a b : α => compare (key a) (key b) := transCmp_comap compare key
    have nodup : (sorted.map key).Nodup :=
      (((sortBy_perm _ entries).map key).nodup_iff).mpr distinct
    have ordered : sorted.Pairwise fun a b => (compare (key a) (key b)).isLE :=
      sortBy_ordered entries
    refine (ordered.and (List.pairwise_map.mp nodup)).imp ?_
    rintro a b ⟨le, ne⟩
    cases compared : compare (key a) (key b) with
    | lt => rfl
    | eq => exact absurd (Std.LawfulEqOrd.eq_of_compare compared) ne
    | gt =>
      rw [compared] at le
      cases le
  rw [found]
  refine (isGathered_total increasing (fun entry h => gathered entry ((mem entry).mp h))
    fun entry h => first entry ((mem entry).mp h)).congr fun visit => ?_
  simp only [mem]

end Findings

end Backlog
