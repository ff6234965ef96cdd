import Backlog.Proofs.LetterCase
import Backlog.Proofs.PrefixSelection
import Backlog.Proofs.TodoComparison

set_option relaxedAutoImplicit false
set_option autoImplicit false

/-!
# The case of users

Users are selected and put in order by their lower case. Lower case of a text in lower case is the
same again, and the case of ASCII letters makes no difference to it. So neither makes a difference
to a selection, and users that differ in the case of ASCII letters cannot be told apart by the
selections or by the order.

## Main results

* `Backlog.Todo.belongsTo_congr` — selections depend on lower case only.
* `Backlog.Todo.sortName?_eq_of_sameButForCase` — the name by which a todo is put in order.
* `Backlog.users_ignore_case` — selections and the order by user, in any case.
-/

namespace Backlog

open Text

variable {a b : Todo} {start other : Text}

namespace Todo

/-- **Selections depend on lower case only**, both that of the text and that of the user. -/
lemma belongsTo_congr (starts : lower start = lower other) (users : lower a.user = lower b.user) :
    a.belongsTo start = b.belongsTo other := by
  rw [belongsTo, starts, users, ← belongsTo]

/-- Whether a todo names somebody does not depend on the case of the name. -/
lemma isAnonymous_eq_of_sameButForCase (h : sameButForCase a.user b.user = true) :
    a.isAnonymous = b.isAnonymous := by
  have small (todo : Todo) : todo.isAnonymous = (trim (todo.user.map Char.toLower)).isEmpty := by
    rw [trim_map_toLower, List.isEmpty_map, isAnonymous]
  rw [small a, small b, sameButForCase_iff.mp h]

/-- **The name by which a todo is put in order** does not depend on the case of its user. -/
lemma sortName?_eq_of_sameButForCase (h : sameButForCase a.user b.user = true) :
    a.sortName? = b.sortName? := by
  rw [sortName?, isAnonymous_eq_of_sameButForCase h, lower_eq_of_sameButForCase h, ← sortName?]

end Todo

/-- A text selects the todos that are selected by each text with the same lower case. -/
lemma thoseOf_congr (starts : lower start = lower other) (todos : List Todo) :
    thoseOf start todos = thoseOf other todos :=
  List.filter_congr fun _ _ => Todo.belongsTo_congr starts rfl

/-- **Users in any case.** A text selects the same todos as it does in lower case, or with other
case of its ASCII letters. Two todos whose users differ in the case of ASCII letters are equal by
user, stand in the same order to every other todo, and are selected both or neither. -/
theorem users_ignore_case :
    (∀ start todos, thoseOf (lower start) todos = thoseOf start todos ∧
      ∀ other, sameButForCase start other = true → thoseOf other todos = thoseOf start todos) ∧
      ∀ a b : Todo, sameButForCase a.user b.user = true →
        Todo.compareUsers a b = .eq ∧
          (∀ c, Todo.compareUsers a c = Todo.compareUsers b c ∧
            Todo.compareUsers c a = Todo.compareUsers c b) ∧
          ∀ start todos, a ∈ todos → b ∈ todos →
            (a ∈ thoseOf start todos ↔ b ∈ thoseOf start todos) := by
  refine ⟨fun start todos => ⟨thoseOf_congr (lower_lower start) todos, fun other same => ?_⟩,
    fun a b same => ⟨?_, fun c => ?_, fun start todos ha hb => ?_⟩⟩
  · exact thoseOf_congr (lower_eq_of_sameButForCase same).symm todos
  · exact Todo.compareUsers_eq_eq_iff.mpr (Todo.sortName?_eq_of_sameButForCase same)
  · simp only [Todo.compareUsers_eq, Todo.sortName?_eq_of_sameButForCase same, and_self]
  · rw [mem_thoseOf_iff, mem_thoseOf_iff, and_iff_right ha, and_iff_right hb,
      Todo.belongsTo_congr rfl (lower_eq_of_sameButForCase same)]

/-- Next to a sigma and before a dotted capital, which has a small form of two characters. -/
theorem users_ignore_case_sigma :
    let todos := [Todo.ofRemark "a".toList "// TODO AΣ.bİx; 2020; x".toList,
      Todo.ofRemark "b".toList "// todo: aΣ.BİX; ; y!".toList]
    thoseOf (lower "aΣ.bİ".toList) todos = todos ∧ thoseOf "AΣ.Bİ".toList todos = todos ∧
      Todo.compareUsers todos[0] todos[1] = .eq := by
  intro todos
  have all : thoseOf "aΣ.bİ".toList todos = todos := by decide +kernel
  have selected := users_ignore_case.1 "aΣ.bİ".toList todos
  have users : sameButForCase todos[0].user todos[1].user = true := by decide +kernel
  exact ⟨selected.1.trans all, (selected.2 "AΣ.Bİ".toList (by decide)).trans all,
    (users_ignore_case.2 todos[0] todos[1] users).1⟩

end Backlog
