import Backlog.Table.Layout
import Mathlib.Algebra.Ring.Nat
import Mathlib.Data.List.Forall2

set_option relaxedAutoImplicit false
set_option autoImplicit false

/-!
# The layout of a table

A table is a sequence of blocks of one length. Every block ends in a line feed, and in the header
and in all rows the separators stand at the same places, whatever the fields hold. So a cell can be
found by its place alone, even if its value has separators or line feeds of its own.

## Main definitions

* `Backlog.Table.breadth` — the length of a block.
* `Backlog.Table.Column.offset`, `Backlog.Table.Column.cellIn` — the place of the separator before a
  column, and what a block holds behind it.
* `Backlog.Table.IsLayout` — what the blocks of a table are.
* `Backlog.Table.blocks` — the blocks that make up a table.

## Main results

* `Backlog.Table.cellIn_line` — the cell of each column is found at its place.
* `Backlog.Table.render_eq_blocks` — every table is laid out in blocks.
-/

namespace Backlog.Table

/-! ## Widths -/

/-- No width is above the greatest. -/
lemma Bounds.clamp_le_greatest {bounds : Bounds} (h : bounds.least ≤ bounds.greatest) (n : ℕ) :
    bounds.clamp n ≤ bounds.greatest :=
  Nat.max_le.mpr ⟨h, Nat.min_le_right _ _⟩

/-- A width is brought down to the greatest at most. -/
lemma Bounds.min_le_clamp (bounds : Bounds) (n : ℕ) : min n bounds.greatest ≤ bounds.clamp n :=
  Nat.le_max_right _ _

namespace Column

/-- Every column stands in a table. -/
lemma mem_all (column : Column) : column ∈ all := by
  cases column <;> decide

/-- The bounds of a column leave room for its title. -/
lemma length_title (column : Column) : column.title.length = column.bounds.least := by
  cases column <;> rfl

/-- The bounds of a column leave some widths, all of them wide enough for three dots. -/
lemma least_bounds (column : Column) :
    3 ≤ column.bounds.least ∧ column.bounds.least ≤ column.bounds.greatest := by
  cases column <;> decide

/-- A column is at least as wide as its lower bound. -/
lemma least_le_width (column : Column) (todos : List Todo) :
    column.bounds.least ≤ column.width todos :=
  column.bounds.least_le_clamp _

/-- A column is at most as wide as its upper bound. -/
lemma width_le_greatest (column : Column) (todos : List Todo) :
    column.width todos ≤ column.bounds.greatest :=
  Bounds.clamp_le_greatest column.least_bounds.2 _

/-- A column has room for three dots. -/
lemma three_le_width (column : Column) (todos : List Todo) : 3 ≤ column.width todos :=
  Nat.le_trans column.least_bounds.1 (column.least_le_width todos)

/-- A column has room for its title. -/
lemma length_title_le_width (column : Column) (todos : List Todo) :
    column.title.length ≤ column.width todos := by
  rw [column.length_title]
  exact column.least_le_width todos

end Column

/-- The length of every block of a table: the mark, the line feed, and for each column a separator,
two margins and the width. -/
def breadth (todos : List Todo) : ℕ := 26 + (widths todos).sum

/-- The bounds of the columns bound the length of a block. -/
lemma breadth_bounds (todos : List Todo) : 49 ≤ breadth todos ∧ breadth todos ≤ 111 := by
  have user : 4 ≤ Column.user.width todos ∧ Column.user.width todos ≤ 10 :=
    ⟨Column.user.least_le_width todos, Column.user.width_le_greatest todos⟩
  have date : 4 ≤ Column.date.width todos ∧ Column.date.width todos ≤ 10 :=
    ⟨Column.date.least_le_width todos, Column.date.width_le_greatest todos⟩
  have comment : 7 ≤ Column.comment.width todos ∧ Column.comment.width todos ≤ 50 :=
    ⟨Column.comment.least_le_width todos, Column.comment.width_le_greatest todos⟩
  have file : 8 ≤ Column.file.width todos ∧ Column.file.width todos ≤ 15 :=
    ⟨Column.file.least_le_width todos, Column.file.width_le_greatest todos⟩
  simp only [breadth, widths, Column.all, List.map_cons, List.map_nil, List.sum_cons, List.sum_nil]
  omega

/-! ## Cells in a row -/

/-- A value that is not too wide is filled up with spaces. -/
lemma fitted_of_le {width : ℕ} {v : Text} (h : v.length ≤ width) :
    fitted width v = v ++ List.replicate (width - v.length) ' ' := by
  rw [fitted, if_neg (by omega), List.rightpad]

/-- The cells of some columns, each behind its separator. -/
def cells (todos : List Todo) (value : Column → Text) (columns : List Column) : Text :=
  columns.flatMap fun column => '|' :: cell (column.width todos) (value column)

/-- A cell with its separator is five characters longer than its column is wide. -/
lemma length_cells (todos : List Todo) (value : Column → Text) (columns : List Column) :
    (cells todos value columns).length =
      (columns.map fun column => column.width todos + 5).sum := by
  have one (column : Column) :
      ('|' :: cell (column.width todos) (value column)).length = column.width todos + 5 := by
    rw [List.length_cons, length_cell (column.three_le_width todos)]
  simp only [cells, List.length_flatMap, one]

/-- A line is its mark, its cells and a line feed. -/
lemma line_eq (todos : List Todo) (important : Bool) (value : Column → Text) :
    line (widths todos) important (Column.all.map value) =
      mark important ++ cells todos value Column.all ++ ['\n'] := by
  simp only [line, widths, cells, Column.all, List.map_cons, List.map_nil, List.zipWith_cons_cons,
    List.zipWith_nil_left, List.flatMap_cons, List.flatMap_nil]

/-- A mark has five characters. -/
lemma length_mark (important : Bool) : (mark important).length = 5 := by
  cases important <;> rfl

/-- A line begins with its mark. -/
lemma take_line (todos : List Todo) (important : Bool) (value : Column → Text) :
    (line (widths todos) important (Column.all.map value)).take 5 = mark important := by
  rw [line_eq, List.append_assoc]
  exact List.take_left' (length_mark important)

/-- Whatever the values, all lines of a table are equally long. -/
lemma length_line (todos : List Todo) (important : Bool) (value : Column → Text) :
    (line (widths todos) important (Column.all.map value)).length = breadth todos := by
  rw [line_eq, List.length_append, List.length_append, length_mark, length_cells, breadth, widths]
  simp only [Column.all, List.map_cons, List.map_nil, List.sum_cons, List.sum_nil,
    List.length_singleton]
  omega

/-- A line ends in a line feed. -/
lemma getLast?_line (todos : List Todo) (important : Bool) (value : Column → Text) :
    (line (widths todos) important (Column.all.map value)).getLast? = some '\n' := by
  rw [line_eq, List.getLast?_concat]

/-! ## The places of the cells -/

namespace Column

/-- The place of the separator before a column, behind the mark and the columns to the left. -/
def offset (todos : List Todo) (column : Column) : ℕ :=
  5 + ((all.takeWhile (· ≠ column)).map fun left => left.width todos + 5).sum

/-- What a block holds between the separator before a column and the end of the column. -/
def cellIn (todos : List Todo) (block : Text) (column : Column) : Text :=
  (block.drop (column.offset todos + 1)).take (column.width todos + 4)

/-- The columns to the left of a column and those to its right. -/
lemma exists_all_eq (column : Column) :
    ∃ right, all = all.takeWhile (· ≠ column) ++ column :: right := by
  cases column <;> exact ⟨_, rfl⟩

end Column

/-- A line has the cell of a column behind the separator at the place of the column. -/
lemma exists_line_eq (todos : List Todo) (important : Bool) (value : Column → Text)
    (column : Column) :
    ∃ left right, line (widths todos) important (Column.all.map value) =
        left ++ '|' :: (cell (column.width todos) (value column) ++ right) ∧
      left.length = column.offset todos := by
  obtain ⟨right, all⟩ := column.exists_all_eq
  -- only the list of columns on the left is split: the offset is about the columns to the left
  refine ⟨mark important ++ cells todos value (Column.all.takeWhile (· ≠ column)),
    cells todos value right ++ ['\n'], ?_, ?_⟩
  · rw [line_eq]
    conv_lhs => rw [all]
    simp [cells]
  · rw [List.length_append, length_mark, length_cells, Column.offset]

/-- **The separators stand at the same places** in all lines. -/
lemma getElem?_line (todos : List Todo) (important : Bool) (value : Column → Text)
    (column : Column) :
    (line (widths todos) important (Column.all.map value))[column.offset todos]? = some '|' := by
  obtain ⟨left, right, h, length⟩ := exists_line_eq todos important value column
  rw [h, ← length, List.getElem?_append_right (Nat.le_refl _), Nat.sub_self, List.getElem?_cons_zero]

/-- **The cell of each column is found at its place**, whatever the values hold. -/
lemma cellIn_line (todos : List Todo) (important : Bool) (value : Column → Text)
    (column : Column) :
    column.cellIn todos (line (widths todos) important (Column.all.map value)) =
      cell (column.width todos) (value column) := by
  obtain ⟨left, right, h, length⟩ := exists_line_eq todos important value column
  have cellLength := length_cell (column.three_le_width todos) (value column)
  rw [Column.cellIn, h, List.append_cons, List.drop_left' (by simp [length]),
    List.take_left' cellLength]

/-- A rule is made of dashes, as many as a line has characters before its line feed. -/
lemma rule_eq (todos : List Todo) :
    rule (widths todos) = List.replicate (breadth todos - 1) '-' ++ ['\n'] := by
  rw [rule, header, length_line]

/-- A rule is as long as a line. -/
lemma length_rule (todos : List Todo) : (rule (widths todos)).length = breadth todos := by
  have bounds := breadth_bounds todos
  rw [rule_eq, List.length_append, List.length_replicate, List.length_singleton]
  omega

/-! ## Blocks -/

/-- The row shows the todo: it is marked if the todo is important, and it holds the fields of the
todo at their places. -/
structure IsRowOf (todos : List Todo) (todo : Todo) (row : Text) : Prop where
  mark : row.take 5 = "  !  ".toList ↔ todo.isImportant
  cells : ∀ column : Column,
    column.cellIn todos row = cell (column.width todos) (column.value todo)

/-- The blocks of a table of the todos: the header, the rule, and one row for each todo, in
order. -/
structure IsLayout (todos : List Todo) (header rule : Text) (rows : List Text) : Prop where
  length : ∀ block ∈ header :: rule :: rows, block.length = breadth todos
  ends : ∀ block ∈ header :: rule :: rows, block.getLast? = some '\n'
  separators : ∀ block ∈ header :: rows, ∀ column : Column,
    block[column.offset todos]? = some '|'
  dashes : ∀ c ∈ rule.dropLast, c = '-'
  titles : ∀ column : Column, ∃ n, column.cellIn todos header =
    margin ++ column.title ++ List.replicate n ' ' ++ margin
  rows : List.Forall₂ (IsRowOf todos) todos rows

/-- Only the mark of important todos has the exclamation mark. -/
lemma mark_eq_iff (important : Bool) : mark important = "  !  ".toList ↔ important := by
  cases important <;> decide

/-- The row of a todo shows it. -/
lemma isRowOf_row (todos : List Todo) (todo : Todo) :
    IsRowOf todos todo (row (widths todos) todo) where
  mark := by
    rw [row, take_line]
    exact mark_eq_iff todo.isImportant
  cells := cellIn_line todos todo.isImportant (·.value todo)

/-- The header shows the titles, which are never cut. -/
lemma cellIn_header (todos : List Todo) (column : Column) :
    column.cellIn todos (header (widths todos)) = margin ++ column.title ++
      List.replicate (column.width todos - column.title.length) ' ' ++ margin := by
  rw [header, cellIn_line, cell, fitted_of_le (column.length_title_le_width todos)]
  simp only [List.append_assoc]

/-- The header, the rule and the rows of a table are its blocks. -/
lemma isLayout (todos : List Todo) :
    IsLayout todos (header (widths todos)) (rule (widths todos))
      (todos.map (row (widths todos))) where
  length := by
    simp only [List.forall_mem_cons, List.forall_mem_map]
    exact ⟨length_line .., length_rule todos, fun todo _ => length_line ..⟩
  ends := by
    simp only [List.forall_mem_cons, List.forall_mem_map]
    refine ⟨getLast?_line .., ?_, fun todo _ => getLast?_line ..⟩
    rw [rule, List.getLast?_concat]
  separators := by
    simp only [List.forall_mem_cons, List.forall_mem_map]
    exact ⟨getElem?_line todos false Column.title,
      fun todo _ => getElem?_line todos todo.isImportant (·.value todo)⟩
  dashes := by
    intro c hc
    rw [rule, List.dropLast_concat] at hc
    exact List.eq_of_mem_replicate hc
  titles column := ⟨_, cellIn_header todos column⟩
  rows := by
    rw [List.forall₂_map_right_iff, List.forall₂_same]
    exact fun todo _ => isRowOf_row todos todo

/-- A table is put together from its blocks. -/
lemma render_eq (todos : List Todo) :
    render todos = header (widths todos) ++ rule (widths todos) ++
      (todos.map (row (widths todos))).flatten ++
      (if todos = [] then [] else rule (widths todos)) := by
  rw [render, List.flatMap]
  simp only [List.isEmpty_iff]

/-- The header, the rule and the rows of a table, and the rule again if there are rows. -/
def blocks (todos : List Todo) : List Text :=
  header (widths todos) :: rule (widths todos) :: todos.map (row (widths todos)) ++
    if todos = [] then [] else [rule (widths todos)]

/-- The blocks make up the table. -/
lemma flatten_blocks (todos : List Todo) : (blocks todos).flatten = render todos := by
  rw [render_eq, blocks]
  split_ifs <;> simp

/-- The blocks are the header, the rule and the rows. -/
lemma mem_blocks {todos : List Todo} {block : Text} (mem : block ∈ blocks todos) :
    block ∈ header (widths todos) :: rule (widths todos) :: todos.map (row (widths todos)) := by
  rcases List.mem_append.mp mem with mem | mem
  · exact mem
  · split_ifs at mem
    · cases mem
    · rw [List.mem_singleton.mp mem]
      exact List.mem_cons_of_mem _ List.mem_cons_self

/-- All blocks are equally long. -/
lemma length_of_mem_blocks {todos : List Todo} {block : Text} (mem : block ∈ blocks todos) :
    block.length = breadth todos :=
  (isLayout todos).length block (mem_blocks mem)

/-- **Every table is laid out in blocks** of one length, which lies between 49 and 111: the header,
the rule, the rows in the order of the todos, and the rule again if there are any. -/
theorem render_eq_blocks (todos : List Todo) :
    49 ≤ breadth todos ∧ breadth todos ≤ 111 ∧
      ∃ (header rule : Text) (rows : List Text), IsLayout todos header rule rows ∧
        render todos = header ++ rule ++ rows.flatten ++ (if todos = [] then [] else rule) :=
  ⟨(breadth_bounds todos).1, (breadth_bounds todos).2, _, _, _, isLayout todos, render_eq todos⟩

end Backlog.Table
