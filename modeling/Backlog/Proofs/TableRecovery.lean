import Backlog.Proofs.FieldDivision
import Backlog.Proofs.HeadGrammar
import Backlog.Proofs.TableLayout

set_option relaxedAutoImplicit false
set_option autoImplicit false

/-!
# What a table tells

A table loses nothing that fits. The widths of its columns are read off the header, where every
title ends at a separator or at the line feed. The widths give the length of a block, and so the
rows, and each row has its cells at known places. A value that was not cut is its cell without the
spaces at the end.

## Main definitions

* `Backlog.Table.FitsWhole` — a todo that has been read and that no table cuts.
* `Backlog.Table.AreShownAlike` — two todos that agree in all that a table shows.

## Main results

* `Backlog.Table.width_eq_of_render_eq` — the widths are recovered from the header.
* `Backlog.Table.map_row_eq_of_render_eq` — the rows are recovered by their length.
* `Backlog.Table.eq_of_cell_eq` — a value that fits is recovered from its cell.
* `Backlog.Table.render_eq_render_iff` — equal tables show todos that agree one by one.
-/

namespace Backlog.Table

open Text

variable {todos others : List Todo}

/-! ## The widths -/

/-- A cell has no other characters than its value, spaces and dots. -/
lemma mem_cell {width : ℕ} {v : Text} {c : Char} (h : c ∈ cell width v) :
    c ∈ v ∨ c = ' ' ∨ c = '.' := by
  simp only [cell, margin, fitted, List.mem_append, List.mem_cons, List.not_mem_nil, or_false,
    or_self] at h
  rcases h with (h | h) | h
  · exact .inr (.inl h)
  · split_ifs at h
    · simp only [List.mem_append, List.mem_cons, List.not_mem_nil, or_false, or_self] at h
      exact h.imp List.mem_of_mem_take .inr
    · simp only [List.rightpad, List.mem_append, List.mem_replicate] at h
      exact h.imp_right fun space => .inl space.2
  · exact .inr (.inl h)

/-- The characters that end a cell of the header. -/
def endsCell (c : Char) : Bool := c = '|' || c = '\n'

/-- Nothing in a title looks like the end of its cell. -/
lemma endsCell_of_mem_title {column : Column} {c : Char} (width : ℕ)
    (h : c ∈ cell width column.title) : endsCell c = false := by
  have letters : column.title.all (!endsCell ·) = true := by
    cases column <;> decide
  rcases mem_cell h with h | rfl | rfl
  · simpa using List.all_eq_true.mp letters c h
  · rfl
  · rfl

/-- Behind a cell of the header stands a separator or the line feed. -/
lemma takeWhile_cells (todos : List Todo) (columns : List Column) (s : Text) :
    (cells todos Column.title columns ++ '\n' :: s).takeWhile (!endsCell ·) = [] := by
  cases columns <;> rfl

/-- Titles in their cells tell how wide the columns are, and where the header ends.

**Proof sketch.** Induction on the columns. The first cell goes as far as to the character that ends
it, on both sides, and its length gives the width of its column. -/
lemma width_eq_of_cells_eq {columns : List Column} {s t : Text}
    (h : cells todos Column.title columns ++ '\n' :: s =
      cells others Column.title columns ++ '\n' :: t) :
    (∀ column ∈ columns, column.width todos = column.width others) ∧ s = t := by
  induction columns with
  | nil => exact ⟨nofun, List.tail_eq_of_cons_eq h⟩
  | cons column columns ih =>
    -- the values may hold separators, but the titles do not: the first cell ends where it seems to
    have parts (todos : List Todo) (s : Text) :
        cells todos Column.title (column :: columns) ++ '\n' :: s =
          '|' :: (cell (column.width todos) column.title ++
            (cells todos Column.title columns ++ '\n' :: s)) := by
      simp [cells]
    have first (todos : List Todo) (s : Text) :
        (cell (column.width todos) column.title ++
            (cells todos Column.title columns ++ '\n' :: s)).takeWhile (!endsCell ·) =
          cell (column.width todos) column.title := by
      rw [List.takeWhile_append_of_pos, takeWhile_cells, List.append_nil]
      intro c hc
      rw [endsCell_of_mem_title _ hc, Bool.not_false]
    rw [parts, parts, List.cons.injEq] at h
    have same : cell (column.width todos) column.title =
        cell (column.width others) column.title := by
      rw [← first todos s, h.2, first others t]
    have width : column.width todos + 4 = column.width others + 4 := by
      rw [← length_cell (column.three_le_width todos) column.title, same,
        length_cell (column.three_le_width others)]
    rw [same] at h
    obtain ⟨widths, rest⟩ := ih (List.append_cancel_left h.2)
    refine ⟨?_, rest⟩
    rw [List.forall_mem_cons]
    exact ⟨Nat.add_right_cancel width, widths⟩

/-- What stands below the header. -/
def body (todos : List Todo) : Text :=
  rule (widths todos) ++ (todos.map (row (widths todos))).flatten ++
    (if todos = [] then [] else rule (widths todos))

/-- A table is its titles and what stands below. -/
lemma render_eq_titles (todos : List Todo) :
    render todos = mark false ++ (cells todos Column.title Column.all ++ '\n' :: body todos) := by
  rw [render_eq, header, line_eq, body]
  simp only [List.append_assoc, List.cons_append, List.nil_append]

/-- **The widths are recovered** from the header of a table, and what stands below it. -/
lemma width_eq_of_render_eq (same : render todos = render others) :
    (∀ column : Column, column.width todos = column.width others) ∧ body todos = body others := by
  rw [render_eq_titles, render_eq_titles] at same
  obtain ⟨width, rest⟩ := width_eq_of_cells_eq (List.append_cancel_left same)
  exact ⟨fun column => width column column.mem_all, rest⟩

/-! ## The rows -/

/-- Pieces of one length are recovered when they are put together. -/
lemma eq_of_flatten_eq {n : ℕ} {s t : List Text} (pos : 0 < n) (hs : ∀ piece ∈ s, piece.length = n)
    (ht : ∀ piece ∈ t, piece.length = n) (h : s.flatten = t.flatten) : s = t := by
  have lengths {s : List Text} (hs : ∀ piece ∈ s, piece.length = n) :
      s.map List.length = List.replicate s.length n := by
    rw [List.eq_replicate_iff, List.length_map, List.forall_mem_map]
    exact ⟨rfl, hs⟩
  have total : s.length * n = t.length * n := by
    have length := congrArg List.length h
    rwa [List.length_flatten, List.length_flatten, lengths hs, lengths ht,
      List.sum_replicate_nat, List.sum_replicate_nat] at length
  rw [List.eq_iff_flatten_eq]
  exact ⟨h, by rw [lengths hs, lengths ht, Nat.eq_of_mul_eq_mul_right pos total]⟩

/-- All rows of a table have the length of a block, also those of other todos. -/
lemma length_of_mem_rows (todos others : List Todo) :
    ∀ piece ∈ others.map (row (widths todos)), piece.length = breadth todos := by
  rw [List.forall_mem_map]
  exact fun todo _ => length_line ..

/-- A rule is not empty. -/
lemma rule_ne_nil (ws : List ℕ) : rule ws ≠ [] := by simp [rule]

/-- **The rows are recovered** from a table.

**Proof sketch.** The widths are the same, so the rules are. A table without rows ends behind the
first rule, and any other has a rule there still. Between the rules stand rows of one length. -/
lemma map_row_eq_of_render_eq (same : render todos = render others) :
    todos.map (row (widths todos)) = others.map (row (widths todos)) := by
  obtain ⟨width, hbody⟩ := width_eq_of_render_eq same
  have hwidths : widths todos = widths others := List.map_congr_left fun column _ => width column
  rw [body, body, ← hwidths, List.append_assoc, List.append_assoc] at hbody
  have rows := List.append_cancel_left hbody
  by_cases none : todos = []
  · subst none
    by_cases others_nil : others = []
    · rw [others_nil]
    · rw [if_pos rfl, if_neg others_nil] at rows
      exact absurd (List.append_eq_nil_iff.mp rows.symm).2 (rule_ne_nil _)
  · by_cases others_nil : others = []
    · rw [if_neg none, if_pos others_nil, others_nil] at rows
      exact absurd (List.append_eq_nil_iff.mp rows).2 (rule_ne_nil _)
    · rw [if_neg none, if_neg others_nil] at rows
      have pos : 0 < breadth todos := Nat.lt_of_lt_of_le (by decide) (breadth_bounds todos).1
      exact eq_of_flatten_eq pos (length_of_mem_rows todos todos) (length_of_mem_rows todos others)
        (List.append_cancel_right rows)

/-! ## The values -/

/-- **A value that fits is recovered** from its cell, if it does not end in a space. -/
lemma eq_of_cell_eq {width : ℕ} {v w : Text} (hv : v.length ≤ width) (hw : w.length ≤ width)
    (v_last : v.getLast? ≠ some ' ') (w_last : w.getLast? ≠ some ' ')
    (same : cell width v = cell width w) : v = w := by
  have unpadded {v : Text} (n : ℕ) (last : v.getLast? ≠ some ' ') :
      (List.replicate n ' ' ++ v.reverse).dropWhile (· = ' ') = v.reverse :=
    Remark.dropWhile_space n (by rwa [List.head?_reverse])
  have padded : fitted width v = fitted width w :=
    List.append_cancel_left (List.append_cancel_right same)
  rw [fitted_of_le hv, fitted_of_le hw] at padded
  have reversed := congrArg List.reverse padded
  rw [List.reverse_append, List.reverse_append, List.reverse_replicate,
    List.reverse_replicate] at reversed
  have values := congrArg (List.dropWhile (· = ' ')) reversed
  rwa [unpadded _ v_last, unpadded _ w_last, List.reverse_inj] at values

/-- The longest text is no shorter than any other. -/
lemma length_le_longest {texts : List Text} {t : Text} (h : t ∈ texts) :
    t.length ≤ longest texts := by
  induction texts with
  | nil => cases h
  | cons first texts ih =>
    simp only [longest, List.map_cons, List.foldr_cons] at ih ⊢
    rcases List.mem_cons.mp h with rfl | h
    · exact Nat.le_max_left _ _
    · exact Nat.le_trans (ih h) (Nat.le_max_right _ _)

/-- A column is as wide as each of its values, as far as its upper bound admits. -/
lemma min_length_value_le_width {todo : Todo} (mem : todo ∈ todos) (column : Column) :
    min (column.value todo).length column.bounds.greatest ≤ column.width todos := by
  have noLonger := length_le_longest (List.mem_map_of_mem (f := column.value) mem)
  calc min (column.value todo).length column.bounds.greatest
      ≤ min (longest (todos.map column.value)) column.bounds.greatest :=
        Nat.le_min.mpr ⟨(Nat.min_le_left _ _).trans noLonger, Nat.min_le_right _ _⟩
    _ ≤ column.width todos := column.bounds.min_le_clamp _

/-- A column is wide enough for all values that its upper bound admits. -/
lemma length_value_le_width {column : Column} {todo : Todo} (mem : todo ∈ todos)
    (fits : (column.value todo).length ≤ column.bounds.greatest) :
    (column.value todo).length ≤ column.width todos := by
  have wide := min_length_value_le_width mem column
  rwa [Nat.min_eq_left fits] at wide

/-- A todo that has been read from a text and that no table cuts: its fields are not longer than
the columns may be, and the name of its file does not end in a space. -/
structure FitsWhole (todo : Todo) : Prop where
  isRead : ∃ file remark, todo = Todo.ofRemark file remark
  user : todo.user.length ≤ 10
  date : todo.date.length ≤ 10
  comment : todo.comment.length ≤ 50
  file : todo.file.length ≤ 15
  file_last : todo.file.getLast? ≠ some ' '

namespace FitsWhole

/-- Every column may be wide enough for the todo. -/
lemma length_value_le {todo : Todo} (h : FitsWhole todo) (column : Column) :
    (column.value todo).length ≤ column.bounds.greatest := by
  cases column with
  | user => exact h.user
  | date => exact h.date
  | comment => exact h.comment
  | file => exact h.file

/-- No field of the todo ends in a space: those that have been read are trimmed. -/
lemma getLast?_value_ne {todo : Todo} (h : FitsWhole todo) (column : Column) :
    (column.value todo).getLast? ≠ some ' ' := by
  obtain ⟨file, remark, rfl⟩ := h.isRead
  have normal : (Todo.fieldsOf remark).IsNormal := Fields.isNormal_ofFreeText _
  cases column with
  | user => exact normal.user.getLast?_ne rfl
  | date => exact normal.date.getLast?_ne rfl
  | comment => exact normal.comment.getLast?_ne rfl
  | file => exact h.file_last

end FitsWhole

/-! ## Equal tables -/

/-- The todos agree in all that a table shows of them. -/
structure AreShownAlike (a b : Todo) : Prop where
  isImportant : a.isImportant = b.isImportant
  user : a.user = b.user
  date : a.date = b.date
  comment : a.comment = b.comment
  file : a.file = b.file

/-- A table shows the importance of a todo and the values in its columns. -/
lemma areShownAlike_iff {a b : Todo} :
    AreShownAlike a b ↔
      a.isImportant = b.isImportant ∧ ∀ column : Column, column.value a = column.value b := by
  constructor
  · intro h
    refine ⟨h.isImportant, fun column => ?_⟩
    cases column with
    | user => exact h.user
    | date => exact h.date
    | comment => exact h.comment
    | file => exact h.file
  · rintro ⟨isImportant, value⟩
    exact ⟨isImportant, value .user, value .date, value .comment, value .file⟩

/-- No value of the todo is cut in a table of the given todos. -/
def IsUncut (todos : List Todo) (todo : Todo) : Prop :=
  FitsWhole todo ∧ ∀ column : Column, (column.value todo).length ≤ column.width todos

/-- The todos of a table are not cut in it if they fit. -/
lemma isUncut_of_mem (h : ∀ todo ∈ todos, FitsWhole todo) : ∀ todo ∈ todos, IsUncut todos todo :=
  fun todo mem =>
    ⟨h todo mem, fun column => length_value_le_width mem ((h todo mem).length_value_le column)⟩

/-- Todos whose rows are equal are shown alike, if they are not cut. -/
lemma areShownAlike_of_row_eq {a b : Todo} (ha : IsUncut todos a) (hb : IsUncut todos b)
    (same : row (widths todos) a = row (widths todos) b) : AreShownAlike a b := by
  rw [areShownAlike_iff]
  constructor
  · rw [Bool.eq_iff_iff, ← (isRowOf_row todos a).mark, ← (isRowOf_row todos b).mark, same]
  · intro column
    apply eq_of_cell_eq (ha.2 column) (hb.2 column) (ha.1.getLast?_value_ne column)
      (hb.1.getLast?_value_ne column)
    rw [← (isRowOf_row todos a).cells, ← (isRowOf_row todos b).cells, same]

/-- Two lists are equal in something if they agree in it one by one. -/
lemma map_eq_map_iff_forall₂ {β : Type} {f : Todo → β} :
    todos.map f = others.map f ↔ List.Forall₂ (fun a b => f a = f b) todos others := by
  rw [← List.forall₂_eq_eq_eq, List.forall₂_map_left_iff, List.forall₂_map_right_iff]

/-- A table depends only on what it shows. -/
lemma render_eq_of_forall₂ (h : List.Forall₂ AreShownAlike todos others) :
    render todos = render others := by
  have values (column : Column) : todos.map column.value = others.map column.value :=
    map_eq_map_iff_forall₂.mpr (h.imp fun a b alike => (areShownAlike_iff.mp alike).2 column)
  have hwidths : widths todos = widths others := by
    simp only [widths, Column.width, values]
  have rows : todos.map (row (widths others)) = others.map (row (widths others)) := by
    refine map_eq_map_iff_forall₂.mpr (h.imp fun a b alike => ?_)
    obtain ⟨isImportant, value⟩ := areShownAlike_iff.mp alike
    simp only [row, isImportant, value]
  have empty : todos = [] ↔ others = [] := by
    rw [← List.length_eq_zero_iff, h.length_eq, List.length_eq_zero_iff]
  rw [render_eq, render_eq, hwidths, rows]
  simp only [empty]

/-- **A table loses nothing that fits**: two tables are equal if and only if they have equally many
rows, and the todos in them agree one by one in importance, user, date, comment and file. -/
theorem render_eq_render_iff (htodos : ∀ todo ∈ todos, FitsWhole todo)
    (hothers : ∀ todo ∈ others, FitsWhole todo) :
    render todos = render others ↔ List.Forall₂ AreShownAlike todos others := by
  refine ⟨fun same => ?_, render_eq_of_forall₂⟩
  have uncut : ∀ todo ∈ others, IsUncut todos todo := by
    simp only [IsUncut, (width_eq_of_render_eq same).1]
    exact isUncut_of_mem hothers
  have rows := map_eq_map_iff_forall₂.mp (map_row_eq_of_render_eq same)
  -- membership is lost in `rows`, so what it gives about each todo is put into the relation
  have left := (List.forall₂_and_left _ _).mpr ⟨isUncut_of_mem htodos, rows⟩
  have both := (List.forall₂_and_left _ _).mpr ⟨uncut, left.flip⟩
  exact both.flip.imp fun a b ⟨hb, ha, row⟩ => areShownAlike_of_row_eq ha hb row

/-- Two todos with separators and a line feed in their fields, read from two remarks each. -/
theorem render_eq_render_iff_separators :
    let todos := [Todo.ofRemark "a|b".toList "// TODO x|; 2020 |; | y\n!".toList,
      Todo.ofRemark " -".toList "just | text".toList]
    let others := [Todo.ofRemark "a|b".toList "//todo :x|  ;2020 |;| y\n!  \n".toList,
      Todo.ofRemark " -".toList "// TODO just | text".toList]
    (∀ todo ∈ todos, FitsWhole todo) ∧ (∀ todo ∈ others, FitsWhole todo) ∧
      render todos = render others ∧ List.Forall₂ AreShownAlike todos others := by
  have fits (file remark : Text)
      (h : (Todo.ofRemark file remark).user.length ≤ 10 ∧
        (Todo.ofRemark file remark).date.length ≤ 10 ∧
        (Todo.ofRemark file remark).comment.length ≤ 50 ∧ file.length ≤ 15 ∧
        file.getLast? ≠ some ' ') : FitsWhole (Todo.ofRemark file remark) :=
    ⟨⟨file, remark, rfl⟩, h.1, h.2.1, h.2.2.1, h.2.2.2.1, h.2.2.2.2⟩
  intro todos others
  have htodos : ∀ todo ∈ todos, FitsWhole todo := by
    simp only [todos, List.forall_mem_cons]
    exact ⟨fits _ _ (by decide +kernel), fits _ _ (by decide +kernel), nofun⟩
  have hothers : ∀ todo ∈ others, FitsWhole todo := by
    simp only [others, List.forall_mem_cons]
    exact ⟨fits _ _ (by decide +kernel), fits _ _ (by decide +kernel), nofun⟩
  have same : render todos = render others := by decide +kernel
  exact ⟨htodos, hothers, same, (render_eq_render_iff htodos hothers).mp same⟩

end Backlog.Table
