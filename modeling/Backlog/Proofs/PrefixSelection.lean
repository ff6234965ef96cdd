import Backlog.Proofs.LowerCase
import Backlog.Todo.Selection

set_option relaxedAutoImplicit false
set_option autoImplicit false

/-!
# Selections by the beginning of a user

A user belongs to a text if its lower case begins with that of the text. That is not quite the same
as a user that begins with the text: a capital sigma at the end of the text may have its final form
there and not in the user, where the word goes on. This is the only exception, for the users that
begin with the text and for the selections by a longer text, which otherwise are among those by a
shorter one.

## Main results

* `Backlog.Todo.belongsTo_iff_of_append` — a user that belongs to a text, and a beginning of it.
* `Backlog.thoseOf_prefix_iff` — selections by the beginnings of a text.
* `Backlog.not_thoseOf_prefix_sigma` — a user that is lost at a capital sigma.
-/

namespace Backlog

open Text

variable {todos : List Todo} {todo : Todo} {start more : Text}

/-! ## One user -/

namespace Todo

/-- A user belongs to the texts whose lower case its own lower case begins with. -/
lemma belongsTo_iff : todo.belongsTo start = true ↔ lower start <+: lower todo.user :=
  List.isPrefixOf_iff_prefix

/-- A user belongs to itself. -/
lemma belongsTo_user (todo : Todo) : todo.belongsTo todo.user = true :=
  belongsTo_iff.mpr List.prefix_rfl

/-- **A user that belongs to a text** belongs to a beginning of the text, unless a word is split
there behind a capital sigma. -/
lemma belongsTo_iff_of_append (h : todo.belongsTo (start ++ more) = true) :
    todo.belongsTo start = true ↔ ¬ SplitsAtSigma start more := by
  rw [belongsTo_iff, lower_isPrefix_iff (belongsTo_iff.mp h)]

end Todo

/-! ## Selections -/

/-- A todo is selected if it is one of the todos and its user belongs to the text. -/
lemma mem_thoseOf_iff : todo ∈ thoseOf start todos ↔ todo ∈ todos ∧ todo.belongsTo start = true :=
  List.mem_filter

/-- Where no word is split, a longer text selects some of the todos that the shorter one selects. -/
lemma thoseOf_append_sublist (whole : ¬ SplitsAtSigma start more) (todos : List Todo) :
    (thoseOf (start ++ more) todos).Sublist (thoseOf start todos) := by
  have kept : thoseOf (start ++ more) todos =
      (thoseOf start todos).filter (Todo.belongsTo (start ++ more)) := by
    rw [thoseOf, thoseOf, List.filter_filter]
    refine List.filter_congr fun todo _ => ?_
    cases longer : todo.belongsTo (start ++ more) with
    | false => rfl
    | true => rw [(Todo.belongsTo_iff_of_append longer).mpr whole, Bool.and_true]
  rw [kept]
  exact List.filter_sublist

/-- Where a word is split, the two texts select different todos. -/
lemma notMem_thoseOf_of_splitsAtSigma (split : SplitsAtSigma start more)
    (h : todo ∈ thoseOf (start ++ more) todos) : todo ∉ thoseOf start todos := fun shorter =>
  (Todo.belongsTo_iff_of_append (mem_thoseOf_iff.mp h).2).mp (mem_thoseOf_iff.mp shorter).2 split

/-- **Selections by the beginnings of a text.** A todo whose user begins with a text is selected by
the text if and only if the text does not split a word of the user behind a capital sigma. A longer
text selects some of the todos that a shorter one selects, in their order, unless a word is split
in this way between the shorter one and the rest. Then it selects none of them, but perhaps
others. -/
theorem thoseOf_prefix_iff (todos : List Todo) (start : Text) :
    (∀ todo ∈ todos, ∀ rest, todo.user = start ++ rest →
      (todo ∈ thoseOf start todos ↔ ¬ SplitsAtSigma start rest)) ∧
      ∀ more, (thoseOf (start ++ more) todos).Sublist (thoseOf start todos) ↔
        (SplitsAtSigma start more → thoseOf (start ++ more) todos = []) := by
  refine ⟨fun todo mem rest parts => ?_, fun more => ⟨fun among split => ?_, fun none => ?_⟩⟩
  · have own : todo.belongsTo (start ++ rest) = true := parts ▸ todo.belongsTo_user
    rw [mem_thoseOf_iff, and_iff_right mem, Todo.belongsTo_iff_of_append own]
  · refine List.eq_nil_iff_forall_not_mem.mpr fun todo longer => ?_
    exact notMem_thoseOf_of_splitsAtSigma split longer (among.subset longer)
  · by_cases split : SplitsAtSigma start more
    · rw [none split]
      exact List.nil_sublist _
    · exact thoseOf_append_sublist split todos

/-- Of two users that begin in the same way, the beginning of the word selects both, and so it does
with a final sigma in it. -/
theorem thoseOf_prefix_iff_whole :
    let long := Todo.ofRemark "a".toList "// TODO ΟΔΥΣΣΕΥΣ; 2020; x".toList
    let short := Todo.ofRemark "b".toList "// todo: ΟΔΥΣ.; ; y!".toList
    long ∈ thoseOf "ΟΔΥ".toList [long, short] ∧ short ∈ thoseOf "ΟΔΥΣ".toList [long, short] ∧
      (thoseOf "ΟΔΥΣ".toList [long, short]).Sublist (thoseOf "ΟΔΥ".toList [long, short]) := by
  intro long short
  have first := thoseOf_prefix_iff [long, short] "ΟΔΥ".toList
  have second := thoseOf_prefix_iff [long, short] "ΟΔΥΣ".toList
  have long_user : long.user = "ΟΔΥ".toList ++ "ΣΣΕΥΣ".toList := by decide +kernel
  have short_user : short.user = "ΟΔΥΣ".toList ++ ".".toList := by decide +kernel
  have whole : ¬ SplitsAtSigma "ΟΔΥ".toList "ΣΣΕΥΣ".toList := by decide +kernel
  have ended : ¬ SplitsAtSigma "ΟΔΥΣ".toList ".".toList := by decide +kernel
  have unsplit : ¬ SplitsAtSigma "ΟΔΥ".toList "Σ".toList := by decide +kernel
  refine ⟨(first.1 long List.mem_cons_self _ long_user).mpr whole,
    (second.1 short (List.mem_cons_of_mem _ List.mem_cons_self) _ short_user).mpr ended, ?_⟩
  exact (first.2 "Σ".toList).mpr fun split => absurd split unsplit

/-- A user begins with a text letter for letter and is not selected by it, because the sigma that
ends the text stands inside a word of the user. With two letters more the text selects it. -/
theorem not_thoseOf_prefix_sigma :
    let todo := Todo.ofRemark "a".toList "// TODO ΟΔΥΣΣΕΥΣ; 2020; x".toList
    "ΟΔΥΣ".toList <+: todo.user ∧ todo ∉ thoseOf "ΟΔΥΣ".toList [todo] ∧
      ¬ (thoseOf ("ΟΔΥΣ".toList ++ "ΣΕ".toList) [todo]).Sublist (thoseOf "ΟΔΥΣ".toList [todo]) := by
  intro todo
  have begins : "ΟΔΥΣ".toList <+: todo.user := by decide +kernel
  have shorter : thoseOf "ΟΔΥΣ".toList [todo] = [] := by decide +kernel
  have longer : thoseOf ("ΟΔΥΣ".toList ++ "ΣΕ".toList) [todo] = [todo] := by decide +kernel
  rw [shorter, longer]
  exact ⟨begins, List.not_mem_nil, fun among => absurd among.length_le (by decide)⟩

end Backlog
