import Backlog.Proofs.SelectionCut

set_option relaxedAutoImplicit false
set_option autoImplicit false

/-!
# What a sort does to parts of the todos

A sort is stable, so it does to any part of the todos what it would do to this part alone. Two kinds
of parts matter. Some todos lack what a key looks at: they come last, and among themselves they stay
in their order. And what a selection keeps may as well be sorted after the selection as before.

## Main definitions

* `Backlog.Session.Shows` — the todos that a line is answered with, and that are printed.

## Main results

* `Backlog.SortKey.sort_eq_append` — todos that a key favours are sorted in front of the others.
* `Backlog.isStableSort_iff_eq_sort` — each sort is the only stable one, and its groups.
* `Backlog.Session.selections_sort_and_shows` — selections before and after a sort.
-/

namespace Backlog

open Text

variable {todos : List Todo}

/-! ## The last group -/

/-- **Todos that a key favours are sorted in front of the others**, which stay in their order if the
key finds them equal.

**Proof sketch.** The sorted todos are cut in two. Each part is a selection of the sorted todos, so
it is the sort of the selection, and the second sort does not move anything. -/
lemma SortKey.sort_eq_append {key : SortKey} {p : Todo → Bool} (favours : key.Favours p)
    (tied : ∀ a b, p a = false → p b = false → key.compareBy a b = .eq) (todos : List Todo) :
    key.sort todos = key.sort (todos.filter p) ++ todos.filter (!p ·) := by
  obtain ⟨k, cut⟩ := SortKey.exists_isCut_sort favours todos
  have rest : key.sort (todos.filter (!p ·)) = todos.filter (!p ·) := by
    apply SortKey.sort_of_tied
    simp only [List.mem_filter, Bool.not_eq_true']
    exact fun a ha b hb => tied a b ha.2 hb.2
  calc key.sort todos
      = (key.sort todos).take k ++ (key.sort todos).drop k := (List.take_append_drop k _).symm
    _ = (key.sort todos).filter p ++ (key.sort todos).filter (!p ·) := by
        rw [cut.filter_eq, cut.filter_not_eq]
    _ = key.sort (todos.filter p) ++ todos.filter (!p ·) := by
        rw [SortKey.filter_sort, SortKey.filter_sort, rest]

namespace Todo

/-- Users are compared by their lower case, if both name somebody. -/
lemma compareUsers_of_named {a b : Todo} (ha : a.isAnonymous = false) (hb : b.isAnonymous = false) :
    compareUsers a b = compare (lower a.user) (lower b.user) := by
  simp only [compareUsers, ha, hb]

/-- Todos of nobody are equal. -/
lemma compareUsers_of_anonymous {a b : Todo} (ha : a.isAnonymous = true)
    (hb : b.isAnonymous = true) : compareUsers a b = .eq := by
  simp only [compareUsers, ha, hb]

/-- Todos without a day are equal. -/
lemma compareDays_of_undated {a b : Todo} (ha : a.day? = none) (hb : b.day? = none) :
    compareDays a b = .eq := by
  simp only [compareDays, ha, hb]

end Todo

/-- The order by user favours todos that name somebody. -/
lemma favours_named : SortKey.user.Favours (!·.isAnonymous) := by
  intro a b h hb
  rw [Bool.not_eq_true'] at hb ⊢
  have compared : (Todo.compareUsers a b).isLE = true := h
  cases ha : a.isAnonymous with
  | false => rfl
  | true =>
    simp only [Todo.compareUsers, ha, hb] at compared
    exact absurd compared Bool.false_ne_true

/-- The order by day favours todos that have a day. -/
lemma favours_dated : SortKey.date.Favours (·.day?.isSome) := by
  intro a b h hb
  obtain ⟨day, hday⟩ := Option.isSome_iff_exists.mp hb
  have compared : (Todo.compareDays a b).isLE = true := h
  rw [Option.isSome_iff_ne_none]
  intro ha
  simp only [Todo.compareDays, ha, hday] at compared
  exact absurd compared Bool.false_ne_true

/-! ## The two groups of a sort -/

/-- **The groups of a sort by user**: the todos that name somebody, by the lower case of the names,
and then those of nobody, as they were. -/
lemma exists_sort_user_eq (todos : List Todo) :
    ∃ named, SortKey.user.sort todos = named ++ todos.filter Todo.isAnonymous ∧
      named.Perm (todos.filter (!·.isAnonymous)) ∧
      named.Pairwise fun a b => (compare (lower a.user) (lower b.user)).isLE := by
  have groups := SortKey.sort_eq_append favours_named
    (fun a b ha hb => Todo.compareUsers_of_anonymous (by simpa using ha) (by simpa using hb)) todos
  simp only [Bool.not_not] at groups
  have perm := SortKey.user.sort_perm (todos.filter (!·.isAnonymous))
  have ordered := SortKey.user.sort_ordered (todos.filter (!·.isAnonymous))
  generalize SortKey.user.sort (todos.filter (!·.isAnonymous)) = named at groups perm ordered
  refine ⟨named, groups, perm, ordered.imp_of_mem fun {a b} ha hb h => ?_⟩
  have names {todo : Todo} (mem : todo ∈ named) : todo.isAnonymous = false := by
    simpa using (List.mem_filter.mp (perm.mem_iff.mp mem)).2
  rwa [SortKey.compareBy, Todo.compareUsers_of_named (names ha) (names hb)] at h

/-- **The groups of a sort by day**: the todos that have a day, from the latest to the earliest, and
then those that have none, as they were. -/
lemma exists_sort_date_eq (todos : List Todo) :
    ∃ dated, SortKey.date.sort todos = dated ++ todos.filter (·.day?.isNone) ∧
      dated.Perm (todos.filter (·.day?.isSome)) ∧
      (dated.filterMap Todo.day?).Pairwise fun later earlier => earlier ≤ later := by
  have groups := SortKey.sort_eq_append favours_dated
    (fun a b ha hb => Todo.compareDays_of_undated (by simpa using ha) (by simpa using hb)) todos
  simp only [Option.not_isSome] at groups
  refine ⟨_, groups, SortKey.date.sort_perm _, List.pairwise_filterMap.mpr ?_⟩
  refine (SortKey.date.sort_ordered _).imp fun {a b} h s ha t hb => ?_
  rw [SortKey.compareBy, Todo.compareDays, ha, hb] at h
  exact h

/-- **Each sort is the only stable sort** by its key: it holds the todos, none before one that comes
first by the key, and those that are equal in the key as they were, and no other list does. The sort
by user has the todos that name somebody in front, by the lower case of the names. The sort by day
has those with a day in front, from the latest to the earliest. Behind them are the others, as they
were. The lists that a sort keeps are those in order, so a second sort by the same key changes
nothing. -/
theorem isStableSort_iff_eq_sort (todos : List Todo) :
    (∀ (key : SortKey) sorted, IsStableSort key.compareBy todos sorted ↔ sorted = key.sort todos) ∧
      (∃ named, SortKey.user.sort todos = named ++ todos.filter Todo.isAnonymous ∧
        named.Perm (todos.filter (!·.isAnonymous)) ∧
        named.Pairwise fun a b => (compare (lower a.user) (lower b.user)).isLE) ∧
      (∃ dated, SortKey.date.sort todos = dated ++ todos.filter (·.day?.isNone) ∧
        dated.Perm (todos.filter (·.day?.isSome)) ∧
        (dated.filterMap Todo.day?).Pairwise fun later earlier => earlier ≤ later) ∧
      ∀ key : SortKey,
        (key.sort todos = todos ↔ todos.Pairwise fun a b => (key.compareBy a b).isLE) ∧
        key.sort (key.sort todos) = key.sort todos := by
  refine ⟨fun key sorted => isStableSort_iff, exists_sort_user_eq todos, exists_sort_date_eq todos,
    fun key => ⟨sortBy_eq_self_iff, ?_⟩⟩
  apply sortBy_of_pairwise
  exact key.sort_ordered todos

/-! ## Selections -/

namespace Session

variable {line : Text} {shown : List Todo}

/-- The line is answered with these todos, and the table of them is printed. -/
structure Shows (todos : List Todo) (line : Text) (shown : List Todo) : Prop where
  reply : (answer todos line).2 = .listing shown
  printed : ∀ coloured,
    (answer todos line).2.written coloured = Table.render shown ++ ['\n']

/-- Todos that a line is answered with are printed. -/
lemma shows_iff : Shows todos line shown ↔ (answer todos line).2 = .listing shown := by
  refine ⟨Shows.reply, fun reply => ⟨reply, fun coloured => ?_⟩⟩
  rw [reply]
  rfl

/-- **A selection may be sorted as well before as after it is made**, by any key. So a request for
the important todos prints the important ones of the order before it, in their stable sort by
importance, and a request for the todos since a day prints those of them since that day, in their
stable sort by day. -/
theorem selections_sort_and_shows (todos : List Todo) :
    (∀ key : SortKey, importantOnes (key.sort todos) = key.sort (importantOnes todos) ∧
      (∀ start, thoseOf start (key.sort todos) = key.sort (thoseOf start todos)) ∧
      ∀ threshold, thoseSince threshold (key.sort todos) = key.sort (thoseSince threshold todos)) ∧
    (∀ line, Command.read line = .ok .showImportant →
      ∃ shown, Shows todos line shown ∧
        IsStableSort SortKey.importance.compareBy (importantOnes todos) shown) ∧
    ∀ line threshold, Command.read line = .ok (.showSince threshold) →
      ∃ shown, Shows todos line shown ∧
        IsStableSort SortKey.date.compareBy (thoseSince threshold todos) shown := by
  refine ⟨fun key => ⟨key.filter_sort _ todos, fun start => key.filter_sort _ todos,
    fun threshold => key.filter_sort _ todos⟩, fun line h => ?_, fun line threshold h => ?_⟩
  · have answered := answer_of_showImportant h todos
    rw [SortKey.filter_sort] at answered
    refine ⟨SortKey.importance.sort (importantOnes todos), ?_, isStableSort_sortBy _⟩
    rw [shows_iff, answered]
    rfl
  · have answered := answer_of_showSince h todos
    rw [SortKey.filter_sort] at answered
    refine ⟨SortKey.date.sort (thoseSince threshold todos), ?_, isStableSort_sortBy _⟩
    rw [shows_iff, answered]
    rfl

/-- Two of the important todos are equal in importance, and two of the todos since a day are of the
same day. -/
theorem selections_sort_and_shows_ties :
    let calm := Todo.ofRemark "a".toList "// TODO x; 2020-02-31; calm".toList
    let loud := Todo.ofRemark "a".toList "// TODO y; soon; loud!".toList
    let again := Todo.ofRemark "b".toList "// TODO w; 2020-03-02; again!".toList
    let louder := Todo.ofRemark "b".toList "// TODO z; 2021; louder!!".toList
    Shows [loud, calm, again, louder] "important now".toList [louder, loud, again] ∧
      Shows [loud, calm, again, louder] "date 2020-03-02".toList [louder, calm, again] := by
  intro calm loud again louder
  have important : Command.read "important now".toList = .ok .showImportant := by decide +kernel
  have since : Command.read "date 2020-03-02".toList =
      .ok (.showSince ⟨2020, 3, 2, by decide, by decide, by decide, by decide⟩) := by decide +kernel
  obtain ⟨-, showImportant, showSince⟩ := selections_sort_and_shows [loud, calm, again, louder]
  obtain ⟨urgent, showsUrgent, urgentStable⟩ := showImportant _ important
  obtain ⟨recent, showsRecent, recentStable⟩ := showSince _ _ since
  have byImportance : IsStableSort SortKey.importance.compareBy
      (importantOnes [loud, calm, again, louder]) [louder, loud, again] :=
    ⟨by decide +kernel, by decide +kernel, by decide +kernel⟩
  have byDay : IsStableSort SortKey.date.compareBy
      (thoseSince ⟨2020, 3, 2, by decide, by decide, by decide, by decide⟩
        [loud, calm, again, louder]) [louder, calm, again] :=
    ⟨by decide +kernel, by decide +kernel, by decide +kernel⟩
  obtain rfl := (isStableSort_iff.mp urgentStable).trans (isStableSort_iff.mp byImportance).symm
  obtain rfl := (isStableSort_iff.mp recentStable).trans (isStableSort_iff.mp byDay).symm
  exact ⟨showsUrgent, showsRecent⟩

end Session

end Backlog
