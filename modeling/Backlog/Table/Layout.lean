import Backlog.Table.Column

set_option relaxedAutoImplicit false
set_option autoImplicit false

/-!
# Tables

A table has a header, a rule of dashes, one row for every todo and, if there are rows, the rule
again. All of its lines are equally long. Before the four columns stands a mark for important
todos.

## Main definitions

* `Backlog.Table.line` — one line of cells.
* `Backlog.Table.header`, `Backlog.Table.rule`, `Backlog.Table.row` — the lines of a table.
* `Backlog.Table.render` — the whole table.
-/

namespace Backlog.Table

/-- The mark before a row. -/
def mark (important : Bool) : Text :=
  if important then [' ', ' ', '!', ' ', ' '] else [' ', ' ', ' ', ' ', ' ']

/-- A line with the values in columns of the given widths. -/
def line (widths : List Nat) (important : Bool) (values : List Text) : Text :=
  mark important ++ (List.zipWith cell widths values).flatMap ('|' :: ·) ++ ['\n']

/-- The widths of all columns for the todos. -/
def widths (todos : List Todo) : List Nat := Column.all.map (·.width todos)

/-- The line of the titles. -/
def header (widths : List Nat) : Text := line widths false (Column.all.map Column.title)

/-- A line of dashes as long as the header. -/
def rule (widths : List Nat) : Text := List.replicate ((header widths).length - 1) '-' ++ ['\n']

/-- The line of a todo. -/
def row (widths : List Nat) (todo : Todo) : Text :=
  line widths todo.isImportant (Column.all.map (·.value todo))

/-- The table of the todos, in their order. -/
def render (todos : List Todo) : Text :=
  let ws := widths todos
  header ws ++ rule ws ++ todos.flatMap (row ws) ++ (if todos.isEmpty then [] else rule ws)

end Backlog.Table
