import Backlog.Proofs.DateReading
import Backlog.Proofs.TableRecovery

set_option relaxedAutoImplicit false
set_option autoImplicit false

/-!
# How a table shows a value

The width of a column depends on all todos of the table, and so does the number of spaces behind a
value. Whether a value is cut does not: the column is as wide as any value that its upper bound
admits, and one value beyond the bound makes it as wide as it may be. What is cut is cut at the
upper bound, and a date from which a day has been read is never long enough for that.

## Main definitions

* `Backlog.Table.Column.limit` — the length of the longest values that a column shows in full.
* `Backlog.Table.blockAt` — a block of a table, by its place in the text.

## Main results

* `Backlog.Table.blockAt_of_getElem?` — the row of each todo is found by the place of the todo.
* `Backlog.Table.Column.width_eq_limit` — a value that is too long makes its column as wide as
  possible.
* `Backlog.Table.cellIn_blockAt` — which values are cut, and where.
-/

namespace Backlog.Table

open Text

variable {todos : List Todo} {todo : Todo}

/-! ## Rows by their place -/

/-- The block of a table with a number, as a part of the text. The header has the number `0`, the
rule `1`, and the rows follow. -/
def blockAt (todos : List Todo) (n : ℕ) : Text :=
  ((render todos).drop (n * breadth todos)).take (breadth todos)

/-- Pieces of one length are found by their number when they are put together. -/
lemma take_drop_flatten {pieces : List Text} {piece : Text} {n i : ℕ}
    (lengths : ∀ piece ∈ pieces, piece.length = n) (h : pieces[i]? = some piece) :
    (pieces.flatten.drop (i * n)).take n = piece := by
  induction pieces generalizing i with
  | nil => cases h
  | cons first pieces ih =>
    rw [List.forall_mem_cons] at lengths
    obtain ⟨rfl, lengths⟩ := lengths
    cases i with
    | zero =>
      obtain rfl : first = piece := Option.some.inj h
      rw [Nat.zero_mul, List.drop_zero, List.flatten_cons, List.take_left]
    | succ i =>
      have step : (i + 1) * first.length = first.length + i * first.length := by
        rw [Nat.succ_mul, Nat.add_comm]
      rw [step, List.flatten_cons, List.drop_length_add_append]
      exact ih lengths h

/-- **The row of a todo** is the block with its place, behind the header and the rule. -/
lemma blockAt_of_getElem? {i : ℕ} (h : todos[i]? = some todo) :
    blockAt todos (i + 2) = row (widths todos) todo := by
  rw [blockAt, ← flatten_blocks]
  apply take_drop_flatten fun block mem => length_of_mem_blocks mem
  have placed : (todos.map (row (widths todos)))[i]? = some (row (widths todos) todo) := by
    rw [List.getElem?_map, h, Option.map_some]
  have bound : i + 2 < (header (widths todos) :: rule (widths todos) ::
      todos.map (row (widths todos))).length := by
    simpa using (List.getElem?_eq_some_iff.mp h).1
  rw [blocks, List.getElem?_append_left bound]
  exact placed

/-! ## Widths and values -/

namespace Column

/-- The length of the longest values that a column shows in full. -/
def limit : Column → ℕ
  | user => 10
  | date => 10
  | comment => 50
  | file => 15

/-- A column is never wider than its longest values. -/
lemma greatest_bounds (column : Column) : column.bounds.greatest = column.limit := by
  cases column <;> rfl

/-- **A value that is too long makes its column as wide as it may be.** -/
lemma width_eq_limit {column : Column} (mem : todo ∈ todos)
    (long : column.limit < (column.value todo).length) : column.width todos = column.limit := by
  have wide := min_length_value_le_width mem column
  rw [← greatest_bounds] at long ⊢
  rw [Nat.min_eq_right long.le] at wide
  exact le_antisymm (column.width_le_greatest todos) wide

end Column

/-- A value that is wider than its column is cut. -/
lemma fitted_of_lt {width : ℕ} {v : Text} (h : width < v.length) :
    fitted width v = v.take (width - 3) ++ "...".toList := by
  rw [fitted, if_pos h]
  rfl

/-! ## Dates -/

/-- A date from which a day is read has a form of at most ten characters, apart from blanks at its
ends. -/
lemma length_trim_le_of_day? (h : todo.day?.isSome) : (trim todo.date).length ≤ 10 := by
  obtain ⟨day, hday⟩ := Option.isSome_iff_exists.mp h
  obtain ⟨_, _, _, form, -⟩ := Date.read?_eq_some_iff.mp hday
  exact form.length_le

/-- The date of a todo with a day is never too long, if the todo was read from a remark. -/
lemma length_date_le (built : ∃ file remark, todo = Todo.ofRemark file remark)
    (dated : todo.day?.isSome) : (Column.date.value todo).length ≤ Column.date.limit := by
  obtain ⟨file, remark, rfl⟩ := built
  have normal : (Todo.fieldsOf remark).IsNormal := Fields.isNormal_ofFreeText _
  have trimmed : trim (Todo.ofRemark file remark).date = (Todo.ofRemark file remark).date :=
    isTrimmed_iff.mp normal.date
  have length := length_trim_le_of_day? dated
  rwa [trimmed] at length

/-! ## Cells -/

/-- The block shows the whole value in the column, with spaces behind it up to the width. -/
def ShowsWhole (todos : List Todo) (block : Text) (column : Column) (v : Text) : Prop :=
  ∃ n, v.length + n = column.width todos ∧
    column.cellIn todos block = margin ++ (v ++ List.replicate n ' ') ++ margin

/-- The block shows the beginning of the value and dots in the column, which is as wide as it may
be. -/
def ShowsCut (todos : List Todo) (block : Text) (column : Column) (v : Text) : Prop :=
  column.width todos = column.limit ∧
    column.cellIn todos block = margin ++ (v.take (column.limit - 3) ++ "...".toList) ++ margin

/-- **Only values beyond the limit of their column are cut**, whatever else is in the table. The row
of a todo shows a value in full, with spaces up to the width of the column, if and only if it is not
beyond the limit. Of any other value it shows all but the last three characters that the limit
admits, with three dots behind them, and then the column is as wide as the limit. If the todo was
read from a remark and has a day, its date is shown in full. -/
theorem cellIn_blockAt {i : ℕ} (h : todos[i]? = some todo) :
    (∀ column : Column,
      (ShowsWhole todos (blockAt todos (i + 2)) column (column.value todo) ↔
        (column.value todo).length ≤ column.limit) ∧
      (column.limit < (column.value todo).length →
        ShowsCut todos (blockAt todos (i + 2)) column (column.value todo))) ∧
    ((∃ file remark, todo = Todo.ofRemark file remark) → todo.day?.isSome →
      ShowsWhole todos (blockAt todos (i + 2)) .date todo.date) := by
  have mem : todo ∈ todos := List.mem_of_getElem? h
  have cells (column : Column) : column.cellIn todos (blockAt todos (i + 2)) =
      cell (column.width todos) (column.value todo) := by
    rw [blockAt_of_getElem? h]
    exact (isRowOf_row todos todo).cells column
  have whole (column : Column) (fits : (column.value todo).length ≤ column.limit) :
      ShowsWhole todos (blockAt todos (i + 2)) column (column.value todo) := by
    rw [← column.greatest_bounds] at fits
    have room := length_value_le_width mem fits
    refine ⟨_, Nat.add_sub_of_le room, ?_⟩
    rw [cells, cell, fitted_of_le room]
  refine ⟨fun column => ⟨⟨?_, whole column⟩, fun long => ?_⟩,
    fun built dated => whole .date (length_date_le built dated)⟩
  · rintro ⟨n, room, -⟩
    have bound := column.width_le_greatest todos
    rw [column.greatest_bounds] at bound
    omega
  · have width := column.width_eq_limit mem long
    refine ⟨width, ?_⟩
    rw [cells, cell, width, fitted_of_lt long]

/-- A user of eleven characters is cut and a user of ten is not, although it takes more bytes. A day
that February does not have is shown in full. -/
theorem cellIn_blockAt_long :
    let long := Todo.ofRemark "a".toList "// TODO bernadette_; 2021-02-31 ; x".toList
    let short := Todo.ofRemark "b".toList "// TODO: jürgen_höß; soon; y!".toList
    ShowsCut [long, short] (blockAt [long, short] 2) .user long.user ∧
      ShowsWhole [long, short] (blockAt [long, short] 2) .date long.date ∧
      ShowsWhole [long, short] (blockAt [long, short] 3) .user short.user := by
  intro long short
  obtain ⟨first, dates⟩ := @cellIn_blockAt [long, short] long 0 rfl
  obtain ⟨second, -⟩ := @cellIn_blockAt [long, short] short 1 rfl
  have tooLong : Column.user.limit < (Column.user.value long).length := by decide +kernel
  have fits : (Column.user.value short).length ≤ Column.user.limit := by decide +kernel
  have dated : long.day?.isSome := by decide +kernel
  exact ⟨(first .user).2 tooLong, dates ⟨_, _, rfl⟩ dated, (second .user).1.mpr fits⟩

end Backlog.Table
