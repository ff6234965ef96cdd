import Backlog.Text.Lowercase
import Backlog.Todo.Basic

set_option relaxedAutoImplicit false
set_option autoImplicit false

/-!
# The orders of todos

Todos are put in order by importance, by user or by day. Each order has a last place for todos that
lack what it looks at, and todos that are equal in it keep their places.

## Main definitions

* `Backlog.SortKey` — the three orders.
* `Backlog.Todo.compareImportance`, `Backlog.Todo.compareUsers`, `Backlog.Todo.compareDays` — the
  comparisons behind them.
* `Backlog.SortKey.sort` — the stable sort.
-/

namespace Backlog

open Text

/-- What todos are sorted by. -/
inductive SortKey
  | importance
  | user
  | date
deriving DecidableEq

namespace Todo

/-- The user field names nobody. -/
def isAnonymous (todo : Todo) : Bool := (trim todo.user).isEmpty

/-- More exclamation marks come first. -/
def compareImportance (a b : Todo) : Ordering := compare b.importance a.importance

/-- By the lower case of the users, todos of nobody last. -/
def compareUsers (a b : Todo) : Ordering :=
  match a.isAnonymous, b.isAnonymous with
  | true, true => .eq
  | true, false => .gt
  | false, true => .lt
  | false, false => compare (lower a.user) (lower b.user)

/-- Later days come first, todos without a day last. -/
def compareDays (a b : Todo) : Ordering :=
  match a.day?, b.day? with
  | some s, some t => compare t s
  | some _, none => .lt
  | none, some _ => .gt
  | none, none => .eq

end Todo

namespace SortKey

/-- The key that a word names, in small letters. -/
def ofName? (name : Text) : Option SortKey :=
  if name = "importance".toList then some .importance
  else if name = "user".toList then some .user
  else if name = "date".toList then some .date
  else none

/-- The comparison that belongs to a key. -/
def compareBy : SortKey → Todo → Todo → Ordering
  | .importance => Todo.compareImportance
  | .user => Todo.compareUsers
  | .date => Todo.compareDays

/-- The todos in the order of the key; those that are equal in it keep their order. -/
def sort (key : SortKey) (todos : List Todo) : List Todo :=
  todos.mergeSort fun a b => (key.compareBy a b).isLE

end SortKey

end Backlog
