import Backlog.Proofs.FieldDivision
import Backlog.Proofs.IdleLines
import Backlog.Proofs.LowerCase

set_option relaxedAutoImplicit false
set_option autoImplicit false

/-!
# Asking for the user of a todo

The user of a todo may be given back to a session, which then shows the todo among others. Of a user
with several words only the first one reaches the selection. The todo is selected all the same: the
first word ends at a blank, so its lower case is how the lower case of the whole user begins.

## Main results

* `Backlog.Todo.belongsTo_of_blank` — a user belongs to what stands before a blank.
* `Backlog.Command.read_user` — how a request for a user is read.
* `Backlog.Session.answer_own_user` — the answer to a request for the user of a todo.
-/

namespace Backlog

open Text

variable {todos : List Todo} {todo : Todo}

/-! ## The selection -/

/-- **A user belongs to what stands before a blank** in it, and to the whole of itself. -/
lemma Todo.belongsTo_of_blank {start rest : Text} (parts : todo.user = start ++ rest)
    (blank : ∀ c, rest.head? = some c → isBlank c = true) : todo.belongsTo start = true := by
  rw [Todo.belongsTo, List.isPrefixOf_iff_prefix, parts]
  cases rest with
  | nil =>
    have whole : lower (start ++ []) = lower start := congrArg lower (List.append_nil start)
    exact whole ▸ List.prefix_rfl
  | cons c rest =>
    rw [lower_append_blank (blank c rfl)]
    exact List.prefix_append _ _

/-- The user of a todo is trimmed. -/
lemma Todo.isTrimmed_user (file remark : Text) : IsTrimmed (Todo.ofRemark file remark).user :=
  (Fields.isNormal_ofFreeText _).user

/-! ## The line -/

/-- **A request for a user** is read as one for the first word that follows, whatever follows it. -/
lemma Command.read_user (t : Text) :
    Command.read ("user ".toList ++ t) = .ok (.showUser ((words t).head?.getD [])) := by
  have action : ∀ c ∈ "user".toList, isBlank c = false :=
    any_isBlank_eq_false_iff.mp (by decide)
  have parts : "user ".toList ++ t = "user".toList ++ ' ' :: t := by simp
  rw [Command.read, parts, words_append_cons action (by decide) rfl, List.head?_eq_getElem?]
  rfl

/-! ## The answer -/

namespace Session

/-- A request for a user shows a selection of the todos and leaves them in their order. -/
lemma answer_of_showUser {line start : Text} (read : Command.read line = .ok (.showUser start))
    (todos : List Todo) : answer todos line = (todos, .listing (thoseOf start todos)) := by
  rw [answer, read]
  rfl

/-- **Asking for the user of a todo.** Let a session have answered any lines about todos that were
read from remarks, and let one of the todos be asked for by its own user, which is not empty. Then
the line is read as a request for the first word of the user, the order stays, and the todo is among
those that are shown. -/
theorem answer_own_user (built : ∀ todo ∈ todos, ∃ file remark, todo = Todo.ofRemark file remark)
    (lines : List Text) (mem : todo ∈ after todos lines) (named : todo.user ≠ []) :
    ∃ start, (words todo.user).head? = some start ∧
      Command.read ("user ".toList ++ todo.user) = .ok (.showUser start) ∧
      answer (after todos lines) ("user ".toList ++ todo.user) =
        (after todos lines, .listing (thoseOf start (after todos lines))) ∧
      todo ∈ thoseOf start (after todos lines) := by
  obtain ⟨file, remark, rfl⟩ := built todo ((after_perm todos lines).mem_iff.mp mem)
  obtain ⟨start, rest, parts, first, blank⟩ :=
    (Todo.isTrimmed_user file remark).exists_first_word named
  have read := Command.read_user (Todo.ofRemark file remark).user
  rw [first, Option.getD_some] at read
  refine ⟨start, first, read, answer_of_showUser read _, ?_⟩
  exact List.mem_filter.mpr ⟨mem, Todo.belongsTo_of_blank parts blank⟩

/-- After a sort, a todo is asked for by a user of two words, which both end in a capital sigma. -/
theorem answer_own_user_sigma :
    let todos := [Todo.ofRemark "a".toList "// TODO Σ; 2021; x!".toList,
      Todo.ofRemark "b".toList "// todo: ΟΔΥΣΣΕΥΣ\tΣΑΣ ; ; y".toList]
    let todo := Todo.ofRemark "b".toList "// todo: ΟΔΥΣΣΕΥΣ\tΣΑΣ ; ; y".toList
    let current := after todos ["sort importance".toList]
    Command.read ("user ".toList ++ todo.user) = .ok (.showUser "ΟΔΥΣΣΕΥΣ".toList) ∧
      todo ∈ thoseOf "ΟΔΥΣΣΕΥΣ".toList current := by
  intro todos todo current
  have built : ∀ todo ∈ todos, ∃ file remark, todo = Todo.ofRemark file remark := by
    simp [todos]
  have mem : todo ∈ current :=
    (after_perm _ _).mem_iff.mpr (List.mem_cons_of_mem _ List.mem_cons_self)
  have named : todo.user ≠ [] := by decide +kernel
  have word : (words todo.user).head? = some "ΟΔΥΣΣΕΥΣ".toList := by decide +kernel
  obtain ⟨start, first, read, -, shown⟩ :=
    answer_own_user built ["sort importance".toList] mem named
  obtain rfl : start = "ΟΔΥΣΣΕΥΣ".toList := Option.some.inj (first.symm.trans word)
  exact ⟨read, shown⟩

end Session

end Backlog
