import Backlog.Proofs.IdleLines
import Backlog.Proofs.SessionCourse
import Backlog.Proofs.TableLayout
import Mathlib.Data.List.Perm.Basic

set_option relaxedAutoImplicit false
set_option autoImplicit false

/-!
# Rows in another order

The widths of a table are those of its longest values, so the order of the todos has no influence on
them. Todos in another order have the same header, the same rules and the same rows, and the rows
stand in that other order. A session only reorders its todos. So whatever it has been asked, the
table of all todos that it shows is the first one with its rows moved.

## Main definitions

* `Backlog.atPlaces` — the elements of a list at some places, in the order of the places.
* `Backlog.Table.assembled` — a table that is put together from its blocks.
* `Backlog.Session.AsksForAll` — the lines that are answered with the table of all todos.

## Main results

* `Backlog.exists_atPlaces_of_perm` — a permutation of a list by its places.
* `Backlog.Table.widths_eq_of_perm` — the widths do not depend on the order.
* `Backlog.Table.render_atPlaces` — the table of the todos in another order.
* `Backlog.Session.tables_reordered` — the tables of a session.
-/

namespace Backlog

/-! ## Places -/

section Places

variable {α β : Type} {places : List ℕ} {s t : List α}

/-- The elements at some places, in the order in which the places are given. -/
def atPlaces (places : List ℕ) (s : List α) : List α := places.filterMap fun i => s[i]?

/-- What is made of each element stands at the same places. -/
lemma atPlaces_map (places : List ℕ) (f : α → β) (s : List α) :
    atPlaces places (s.map f) = (atPlaces places s).map f := by
  simp only [atPlaces, List.getElem?_map, List.map_filterMap]

/-- Elements that stand at the places one by one are all that stand there. -/
lemma eq_atPlaces_of_forall₂ (h : List.Forall₂ (fun a i => s[i]? = some a) t places) :
    t = atPlaces places s := by
  induction h with
  | nil => rfl
  | cons first _ ih => rw [atPlaces, List.filterMap_cons_some first, ← atPlaces, ← ih]

/-- The elements of a list stand at all of its places, in their order. -/
lemma forall₂_range (s : List α) :
    List.Forall₂ (fun a i => s[i]? = some a) s (List.range s.length) := by
  rw [List.forall₂_iff_get]
  refine ⟨List.length_range.symm, fun i hi _ => ?_⟩
  simp [hi]

/-- **All places in any order** give a permutation of the list. -/
lemma atPlaces_perm (h : places.Perm (List.range s.length)) : (atPlaces places s).Perm s := by
  have moved : (atPlaces places s).Perm (atPlaces (List.range s.length) s) := h.filterMap _
  rwa [← eq_atPlaces_of_forall₂ (forall₂_range s)] at moved

/-- **Every permutation of a list** consists of its elements at all places, in some order.

**Proof sketch.** Each element of the list stands at its place, and the places are moved together
with the elements. -/
lemma exists_atPlaces_of_perm (h : t.Perm s) :
    ∃ places : List ℕ, places.Perm (List.range s.length) ∧ t = atPlaces places s := by
  obtain ⟨places, moved, perm⟩ := List.perm_comp_forall₂ h (forall₂_range s)
  exact ⟨places, perm, eq_atPlaces_of_forall₂ moved⟩

end Places

/-! ## Tables of reordered todos -/

namespace Table

variable {todos other : List Todo} {places : List ℕ}

/-- The longest of some texts is as long in any order. -/
lemma longest_eq_of_perm {texts others : List Text} (h : texts.Perm others) :
    longest texts = longest others :=
  (h.map List.length).foldr_eq' (fun a _ b _ n => Nat.max_left_comm b a n) 0

/-- **The widths do not depend on the order** of the todos. -/
lemma widths_eq_of_perm (h : todos.Perm other) : widths todos = widths other := by
  have same (column : Column) : column.width todos = column.width other := by
    rw [Column.width, longest_eq_of_perm (h.map column.value), ← Column.width]
  simp only [widths, same]

/-- The table with these blocks: the header, the rule, the rows, and the rule again if there are
rows. -/
def assembled (header rule : Text) (rows : List Text) : Text :=
  header ++ rule ++ rows.flatten ++ if rows = [] then [] else rule

/-- A table has its own blocks. -/
lemma render_eq_assembled (todos : List Todo) :
    render todos =
      assembled (header (widths todos)) (rule (widths todos)) (todos.map (row (widths todos))) := by
  rw [render_eq, assembled]
  simp only [List.map_eq_nil_iff]

/-- Todos in another order are laid out with the same header, rule and rows, and the rows are in
that order. -/
lemma isLayout_atPlaces (h : places.Perm (List.range todos.length)) :
    IsLayout (atPlaces places todos) (header (widths todos)) (rule (widths todos))
      (atPlaces places (todos.map (row (widths todos)))) := by
  rw [atPlaces_map, ← widths_eq_of_perm (atPlaces_perm h)]
  exact isLayout (atPlaces places todos)

/-- **The table of the todos in another order** has the same blocks, with the rows in that order. -/
lemma render_atPlaces (h : places.Perm (List.range todos.length)) :
    render (atPlaces places todos) = assembled (header (widths todos)) (rule (widths todos))
      (atPlaces places (todos.map (row (widths todos)))) := by
  rw [render_eq_assembled, atPlaces_map, widths_eq_of_perm (atPlaces_perm h)]

end Table

/-! ## The tables of a session -/

namespace Session

open Table

variable {todos current : List Todo} {line : Text}

/-- The line asks for all todos, as they are or sorted by a key. -/
inductive AsksForAll (line : Text) : Prop
  | showAll : Command.read line = .ok .showAll → AsksForAll line
  | sort {key : SortKey} : Command.read line = .ok (.sort key) → AsksForAll line

/-- Such a line is answered with the todos in the order in which it leaves them. -/
lemma AsksForAll.answer_snd_eq (h : AsksForAll line) (todos : List Todo) :
    (answer todos line).2 = .listing (answer todos line).1 := by
  unfold answer
  cases h with
  | showAll read =>
    rw [read]
    rfl
  | sort read =>
    rw [read]
    rfl

/-- **One line**: in whatever order a session has the todos, such a line is answered with the table
of the first order, in which the rows are moved as the todos then are. -/
lemma AsksForAll.exists_written_eq (h : AsksForAll line) (perm : current.Perm todos) :
    ∃ places : List ℕ, places.Perm (List.range todos.length) ∧
      (answer current line).1 = atPlaces places todos ∧
      ∀ coloured, (answer current line).2.written coloured =
        assembled (header (widths todos)) (rule (widths todos))
          (atPlaces places (todos.map (row (widths todos)))) ++ ['\n'] := by
  obtain ⟨places, all, order⟩ := exists_atPlaces_of_perm ((answer_fst_perm current line).trans perm)
  refine ⟨places, all, order, fun coloured => ?_⟩
  rw [h.answer_snd_eq, order, Reply.written, render_atPlaces all]

/-- **The tables of a session are one table with its rows moved.** Todos in another order have a
table with the same header, rule and rows, and the rows are moved as the todos are. A `show` at the
beginning shows the table of the todos as they are. Whatever lines a session answers, a `show` or a
sort among them is answered with the header, the rule and the rows of that table, and the rows are
moved as the order of the todos is after this line. Over an input, such replies make up the output
of the session behind its greeting. -/
theorem tables_reordered (todos : List Todo) :
    let ws := widths todos
    let rows := todos.map (row ws)
    (IsLayout todos (header ws) (rule ws) rows ∧
      render todos = assembled (header ws) (rule ws) rows ∧
      ∀ coloured line, Command.read line = .ok .showAll →
        (answer todos line).2.written coloured = render todos ++ ['\n']) ∧
    (∀ places : List ℕ, places.Perm (List.range todos.length) →
      IsLayout (atPlaces places todos) (header ws) (rule ws) (atPlaces places rows) ∧
        render (atPlaces places todos) =
          assembled (header ws) (rule ws) (atPlaces places rows)) ∧
    (∀ (lines : List Text) (i : ℕ) (line : Text), lines[i]? = some line → AsksForAll line →
      ∃ step, ∃ places : List ℕ, (steps todos lines)[i]? = some step ∧
        places.Perm (List.range todos.length) ∧ step.1 = atPlaces places todos ∧
        ∀ coloured, step.2.written coloured =
          assembled (header ws) (rule ws) (atPlaces places rows) ++ ['\n']) ∧
    ∀ coloured input, ∃ processed complete,
      IsCourse todos (inputLines input) processed complete ∧
        (run coloured todos input).output =
          greeting ++ (steps todos processed).flatMap (·.2.written coloured) := by
  intro ws rows
  refine ⟨⟨isLayout todos, render_eq_assembled todos, fun coloured line read => ?_⟩,
    fun places perm => ⟨isLayout_atPlaces perm, render_atPlaces perm⟩,
    fun lines i line hline all => ?_, fun coloured input => ?_⟩
  · rw [answer, read]
    rfl
  · obtain ⟨places, perm, order, written⟩ :=
      all.exists_written_eq (after_perm todos (lines.take i))
    refine ⟨answer (after todos (lines.take i)) line, places, ?_, perm, order, written⟩
    rw [getElem?_steps, hline, Option.map_some]
  · obtain ⟨processed, complete, course⟩ := exists_isCourse todos (inputLines input)
    refine ⟨processed, complete, course, ?_⟩
    rw [run, converse_of_isCourse course]

/-- A sort moves the second row before the first, and the widths stay those of both todos. -/
theorem tables_reordered_important :
    let todos := [Todo.ofRemark "main".toList "// TODO someone; 2021; x".toList,
      Todo.ofRemark "a".toList "// TODO b; 2020-01-02; yes!!".toList]
    let ws := widths todos
    let rows := todos.map (row ws)
    [1, 0].Perm (List.range todos.length) ∧
      render todos.reverse = assembled (header ws) (rule ws) rows.reverse ∧
      AsksForAll "sort importance".toList ∧
      ∃ step places, (steps todos ["sort importance".toList])[0]? = some step ∧
        step.1 = atPlaces places todos ∧ step.1 = todos.reverse ∧
        step.2.written true =
          assembled (header ws) (rule ws) (atPlaces places rows) ++ ['\n'] := by
  intro todos ws rows
  obtain ⟨-, moved, shown, -⟩ := tables_reordered todos
  have swap : [1, 0].Perm (List.range todos.length) := List.Perm.swap 0 1 []
  have all : AsksForAll "sort importance".toList :=
    @AsksForAll.sort _ .importance (by decide +kernel)
  obtain ⟨step, places, hstep, -, order, written⟩ :=
    shown ["sort importance".toList] 0 _ rfl all
  have sorted : (answer todos "sort importance".toList).1 = todos.reverse := by
    have key : kind? "sort importance".toList = some .importance := by decide +kernel
    rw [answer_fst, key]
    exact (isStableSort_iff.mp ⟨by decide +kernel, by decide +kernel, by decide +kernel⟩).symm
  obtain rfl : answer todos "sort importance".toList = step := Option.some.inj hstep
  exact ⟨swap, (moved [1, 0] swap).2, all, _, places, rfl, order, sorted, written true⟩

end Session

end Backlog
