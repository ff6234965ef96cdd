import Backlog.Date.Written
import Backlog.Remark.Span
import Backlog.Todo.Fields

set_option relaxedAutoImplicit false
set_option autoImplicit false

/-!
# Todos

A todo is what a remark asks for: its fields, together with the remark itself and the name of the
file where it stands. The day and the importance of a todo follow from these.

## Main definitions

* `Backlog.Todo` — the type.
* `Backlog.Todo.day?` — the day that the date field writes.
* `Backlog.Todo.importance` — the number of exclamation marks in the remark.
* `Backlog.Todo.ofRemark` — the todo of a remark.
* `Backlog.Todo.inText` — the todos of a file's text.
-/

namespace Backlog

open Text

/-- Something to do: the remark that says so, its fields, and the name of its file. -/
structure Todo where
  remark : Text
  user : Text
  date : Text
  comment : Text
  file : Text
deriving DecidableEq

namespace Todo

/-- The day that the date field writes, if it writes one. -/
def day? (todo : Todo) : Option Date := Date.read? todo.date

/-- The number of exclamation marks anywhere in the remark. -/
def importance (todo : Todo) : Nat := todo.remark.count '!'

/-- There is an exclamation mark in the remark. -/
def isImportant (todo : Todo) : Bool := 0 < todo.importance

/-- The fields of a remark. A text without a head is free text as a whole. -/
def fieldsOf (remark : Text) : Fields :=
  Fields.ofFreeText ((Remark.freeText? (content remark)).getD (trim (content remark)))

/-- The todo of a remark in a file. Every text gives one; what cannot be read stays empty. -/
def ofRemark (file remark : Text) : Todo :=
  let fields := fieldsOf remark
  ⟨remark, fields.user, fields.date, fields.comment, file⟩

/-- The todos of a text in a file, in the order of their remarks. -/
def inText (file t : Text) : List Todo := (Remark.inText t).map (ofRemark file)

end Todo

end Backlog
