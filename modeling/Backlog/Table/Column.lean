import Backlog.Todo.Basic

set_option relaxedAutoImplicit false
set_option autoImplicit false

/-!
# The columns of a table

A table shows four fields of a todo in four columns. A column is as wide as its widest value, within
the bounds of the column; a longer value is cut and ends in three dots.

## Main definitions

* `Backlog.Table.Column` — the four columns, with `title`, `bounds` and `value`.
* `Backlog.Table.Column.width` — the width of a column over some todos.
* `Backlog.Table.fitted`, `Backlog.Table.cell` — a value brought to a width, and with its margins.
-/

namespace Backlog.Table

/-! ## Widths -/

/-- The least and the greatest width that a column may have. -/
structure Bounds where
  least : Nat
  greatest : Nat
deriving DecidableEq

/-- The width within the bounds that is nearest to `n`. -/
def Bounds.clamp (bounds : Bounds) (n : Nat) : Nat := max bounds.least (min n bounds.greatest)

/-- No width is below the least. -/
theorem Bounds.least_le_clamp (bounds : Bounds) (n : Nat) : bounds.least ≤ bounds.clamp n :=
  Nat.le_max_left _ _

/-- The length of the longest of the texts, `0` if there are none. -/
def longest (texts : List Text) : Nat := (texts.map List.length).foldr max 0

/-! ## Columns -/

/-- The fields that a table shows. -/
inductive Column
  | user
  | date
  | comment
  | file
deriving DecidableEq

namespace Column

/-- The columns from left to right. -/
def all : List Column := [.user, .date, .comment, .file]

/-- What stands above a column. -/
def title : Column → Text
  | .user => "user".toList
  | .date => "date".toList
  | .comment => "comment".toList
  | .file => "fileName".toList

/-- The bounds of a column. The least width is that of the title. -/
def bounds : Column → Bounds
  | .user => ⟨4, 10⟩
  | .date => ⟨4, 10⟩
  | .comment => ⟨7, 50⟩
  | .file => ⟨8, 15⟩

/-- The field of a todo that a column shows. -/
def value : Column → Todo → Text
  | .user => Todo.user
  | .date => Todo.date
  | .comment => Todo.comment
  | .file => Todo.file

/-- The width of a column that shows the todos. -/
def width (column : Column) (todos : List Todo) : Nat :=
  column.bounds.clamp (longest (todos.map column.value))

end Column

/-! ## Cells -/

/-- A value brought to a width: filled up with spaces, or cut and ended in dots. -/
def fitted (width : Nat) (value : Text) : Text :=
  if width < value.length then value.take (width - 3) ++ ['.', '.', '.']
  else value.rightpad width ' '

/-- A value has the width to which it is brought, if that leaves room for the dots. -/
theorem length_fitted {width : Nat} (three_le : 3 ≤ width) (value : Text) :
    (fitted width value).length = width := by
  unfold fitted
  split
  · simp only [List.length_append, List.length_take, List.length_cons, List.length_nil]
    omega
  · simp only [List.rightpad, List.length_append, List.length_replicate]
    omega

/-- The space on both sides of a value. -/
def margin : Text := [' ', ' ']

/-- A value between its margins. -/
def cell (width : Nat) (value : Text) : Text := margin ++ fitted width value ++ margin

/-- The margins make a cell four characters longer than its value. -/
theorem length_cell {width : Nat} (three_le : 3 ≤ width) (value : Text) :
    (cell width value).length = width + 4 := by
  have fits := length_fitted three_le value
  simp only [cell, margin, List.length_append, List.length_cons, List.length_nil, fits]
  omega

end Backlog.Table
