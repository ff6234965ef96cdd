import Backlog.Proofs.TodoComparison
import Backlog.Session.Reply

set_option relaxedAutoImplicit false
set_option autoImplicit false

/-!
# The order in which a session leaves the todos

However many lines a session has answered, at most three sorts make up the order of its todos: the
last one by each key. Earlier sorts by a key are undone by later ones, whatever stands in between.

## Main definitions

* `Backlog.Session.kind?` — the key by which a line sorts, if it does.
* `Backlog.Session.lastKinds` — the keys by which lines have sorted, each where it came last.

## Main results

* `Backlog.Session.after_eq_foldl` — a session sorts by the kinds of its lines.
* `Backlog.Session.after_eq_foldl_lastKinds` — the normal form of the order.
-/

namespace Backlog.Session

variable {todos : List Todo} {lines : List Text}

/-- The key by which a line sorts the todos. Lines that are refused have none, and neither have
those that only show todos or end the session. -/
def kind? (line : Text) : Option SortKey :=
  match Command.read line with
  | .ok .showImportant => some .importance
  | .ok (.sort key) => some key
  | .ok (.showSince _) => some .date
  | _ => none

/-- A line sorts by its kind, or leaves the todos as they are. -/
lemma answer_fst (todos : List Todo) (line : Text) :
    (answer todos line).1 = (kind? line).elim todos (·.sort todos) := by
  unfold answer kind?
  cases Command.read line with
  | error why => rfl
  | ok command => cases command <;> rfl

/-- **A session sorts by the kinds of its lines**, one after another. -/
theorem after_eq_foldl (todos : List Todo) (lines : List Text) :
    after todos lines =
      (lines.filterMap kind?).foldl (fun current key => key.sort current) todos := by
  unfold after
  induction lines generalizing todos with
  | nil => rfl
  | cons line lines ih =>
    rw [List.foldl_cons, answer_fst, ih]
    cases h : kind? line with
    | none => rw [List.filterMap_cons_none h, Option.elim_none]
    | some key => rw [List.filterMap_cons_some h, Option.elim_some, List.foldl_cons]

/-- The kinds of the lines, each once, in the order in which they occur for the last time. -/
def lastKinds (lines : List Text) : List SortKey := (lines.filterMap kind?).dedup

/-- **The normal form of the order**: a session leaves the todos as if it had sorted them once by
each kind of its lines, in the order of their last occurrences. This is the stable sort by the
latest kind first and by the earliest last. -/
theorem after_eq_foldl_lastKinds (todos : List Todo) (lines : List Text) :
    after todos lines = (lastKinds lines).foldl (fun current key => key.sort current) todos ∧
      ∀ sorted, IsStableSort (compareByAll (lastKinds lines).reverse) todos sorted ↔
        sorted = after todos lines := by
  have normal : after todos lines = sortBy (compareByAll (lastKinds lines).reverse) todos := by
    rw [after_eq_foldl, foldl_sort_eq_sortBy, lastKinds, compareByAll_reverse_dedup]
  refine ⟨?_, fun sorted => ?_⟩
  · rw [normal, foldl_sort_eq_sortBy]
  · rw [normal]
    exact isStableSort_iff

end Backlog.Session
