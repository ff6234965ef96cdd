import Backlog.Proofs.SessionOrder

set_option relaxedAutoImplicit false
set_option autoImplicit false

/-!
# Lines that leave no trace

A session never loses, repeats or edits a todo, whatever it is asked: every line at most puts the
todos into another order. Lines that are refused, and lines that only show todos or end the session,
do not even do that, and a session goes on after them as if they had never been given.

## Main definitions

* `Backlog.keepAt` — the elements of a list at some places.
* `Backlog.Session.IsIdle` — the lines that leave no trace.

## Main results

* `Backlog.Session.getElem?_steps` — a step is the answer to its line after the lines before it.
* `Backlog.Session.perm_of_mem_steps` — the todos are the same after every step.
* `Backlog.Session.steps_keepAt` — a session without some idle lines has the same other steps.
* `Backlog.Session.steps_perm_and_idle` — the three together.
-/

namespace Backlog

/-! ## Elements at some places -/

/-- The elements at the places that `keep` admits, in order. -/
def keepAt {α : Type} (keep : ℕ → Bool) (s : List α) : List α :=
  (s.zipIdx.filter fun element => keep element.2).map (·.1)

/-- Whether the first element is kept depends on the first place, and all other places are counted
one lower behind it. -/
lemma keepAt_cons {α : Type} (keep : ℕ → Bool) (a : α) (s : List α) :
    keepAt keep (a :: s) =
      if keep 0 then a :: keepAt (fun i => keep (i + 1)) s
      else keepAt (fun i => keep (i + 1)) s := by
  have shifted : ((s.zipIdx 1).filter fun element => keep element.2).map (·.1) =
      keepAt (fun i => keep (i + 1)) s := by
    rw [keepAt, List.zipIdx_succ, List.filter_map, List.map_map]
    rfl
  rw [keepAt, List.zipIdx_cons, List.filter_cons, Nat.zero_add, ← shifted]
  split
  · rw [List.map_cons]
  · rfl

namespace Session

variable {todos : List Todo} {line : Text} {why : Refusal}

/-! ## One line -/

/-- A line leaves no trace: it is answered with a refusal, it asks for all todos or for those of a
user, or it ends the session. -/
inductive IsIdle (line : Text) : Prop
  | refused {todos : List Todo} {why : Refusal} : (answer todos line).2 = .refused why → IsIdle line
  | showAll : Command.read line = .ok .showAll → IsIdle line
  | showUser {start : Text} : Command.read line = .ok (.showUser start) → IsIdle line
  | exit : Command.read line = .ok .exit → IsIdle line

/-- A line is refused if and only if it is no command, whatever the todos are. -/
lemma answer_snd_eq_refused_iff :
    (answer todos line).2 = .refused why ↔ Command.read line = .error why := by
  unfold answer
  cases Command.read line with
  | error other => simp
  | ok command => cases command <;> simp [Command.reply]

/-- An idle line has no kind. -/
lemma IsIdle.kind?_eq_none (h : IsIdle line) : kind? line = none := by
  unfold kind?
  cases h with
  | refused h => rw [answer_snd_eq_refused_iff.mp h]
  | showAll h => rw [h]
  | showUser h => rw [h]
  | exit h => rw [h]

/-- **An idle line leaves the order as it was.** -/
lemma IsIdle.answer_fst_eq (h : IsIdle line) (todos : List Todo) :
    (answer todos line).1 = todos := by
  rw [answer_fst, h.kind?_eq_none]
  rfl

/-- A line loses, repeats and edits no todo. -/
lemma answer_fst_perm (todos : List Todo) (line : Text) : (answer todos line).1.Perm todos := by
  rw [answer_fst]
  cases kind? line with
  | none => exact List.Perm.refl todos
  | some key => exact key.sort_perm todos

/-! ## A run -/

/-- The todos after one line more. -/
lemma after_cons (todos : List Todo) (line : Text) (lines : List Text) :
    after todos (line :: lines) = after (answer todos line).1 lines := rfl

/-- **A step is the answer to its line** about the todos that the lines before it have left.

**Proof sketch.** Induction on the lines. The first step is the answer to the first line, and the
others are the steps over the rest, with the todos that the first line has left. -/
lemma getElem?_steps (todos : List Todo) (lines : List Text) (i : ℕ) :
    (steps todos lines)[i]? = lines[i]?.map (answer (after todos (lines.take i))) := by
  induction lines generalizing todos i with
  | nil => rfl
  | cons line lines ih =>
    cases i with
    | zero => rfl
    | succ i =>
      rw [steps, List.getElem?_cons_succ, List.getElem?_cons_succ, List.take_succ_cons, after_cons,
        ih]

/-- A session over any lines leaves the same todos, in some order. -/
lemma after_perm (todos : List Todo) (lines : List Text) : (after todos lines).Perm todos := by
  induction lines generalizing todos with
  | nil => exact List.Perm.refl todos
  | cons line lines ih =>
    rw [after_cons]
    exact (ih (answer todos line).1).trans (answer_fst_perm todos line)

/-- **The todos are the same after every step**, in some order. -/
lemma perm_of_mem_steps {lines : List Text} {step : List Todo × Reply}
    (h : step ∈ steps todos lines) : step.1.Perm todos := by
  obtain ⟨i, hi⟩ := List.mem_iff_getElem?.mp h
  rw [getElem?_steps, Option.map_eq_some_iff] at hi
  obtain ⟨line, -, rfl⟩ := hi
  exact (answer_fst_perm _ line).trans (after_perm todos (lines.take i))

/-- **A session without some idle lines** has the same steps for all other lines.

**Proof sketch.** Induction on the lines. If the first line is kept, both sessions begin with its
answer and go on with the todos that it has left. If not, it is idle, and the todos with which the
session goes on are those with which it began. -/
lemma steps_keepAt {lines : List Text} {keep : ℕ → Bool}
    (idle : ∀ i line, lines[i]? = some line → keep i = false → IsIdle line) (todos : List Todo) :
    steps todos (keepAt keep lines) = keepAt keep (steps todos lines) := by
  induction lines generalizing todos keep with
  | nil => rfl
  | cons line lines ih =>
    have later (todos : List Todo) : steps todos (keepAt (fun i => keep (i + 1)) lines) =
        keepAt (fun i => keep (i + 1)) (steps todos lines) :=
      ih (fun i other h => idle (i + 1) other h) todos
    rw [steps, keepAt_cons, keepAt_cons]
    cases first : keep 0 with
    | true => rw [if_pos rfl, if_pos rfl, steps, later]
    | false =>
      have same : (answer todos line).1 = todos := (idle 0 line rfl first).answer_fst_eq todos
      rw [if_neg Bool.false_ne_true, if_neg Bool.false_ne_true, same, later]

/-- **No todo is lost, repeated or edited, and idle lines leave no trace.** After every step the
todos are those of the beginning, in some order. After a step for an idle line the order is the one
that the lines before it have left. If some idle lines are not given, the replies to all other lines
and the orders after them stay. -/
theorem steps_perm_and_idle (todos : List Todo) (lines : List Text) :
    (∀ step ∈ steps todos lines, step.1.Perm todos) ∧
      (∀ i line, lines[i]? = some line → IsIdle line →
        ∃ reply, (steps todos lines)[i]? = some (after todos (lines.take i), reply)) ∧
      ∀ keep : ℕ → Bool, (∀ i line, lines[i]? = some line → keep i = false → IsIdle line) →
        steps todos (keepAt keep lines) = keepAt keep (steps todos lines) := by
  refine ⟨fun step h => perm_of_mem_steps h, fun i line hline idle => ?_,
    fun keep idle => steps_keepAt idle todos⟩
  refine ⟨(answer (after todos (lines.take i)) line).2, ?_⟩
  have same := idle.answer_fst_eq (after todos (lines.take i))
  rw [getElem?_steps, hline, Option.map_some, Option.some.injEq]
  exact Prod.ext same rfl

/-- A session in which a refused line and a request for all todos stand between two sorts. -/
theorem steps_perm_and_idle_between :
    let todos := [Todo.ofRemark "a".toList "// TODO b; 2020; x".toList,
      Todo.ofRemark "a".toList "// TODO a; 2021; y!".toList]
    let lines := ["sort user".toList, "sort size".toList, " show all".toList, "important".toList]
    (∃ reply, (steps todos lines)[2]? = some (after todos (lines.take 2), reply)) ∧
      steps todos ["sort user".toList, "important".toList] =
        keepAt (fun i => i == 0 || i == 3) (steps todos lines) := by
  intro todos lines
  have noKey : Command.read "sort size".toList = .error .invalidSortKey := by decide +kernel
  have answered : (answer todos "sort size".toList).2 = .refused .invalidSortKey :=
    answer_snd_eq_refused_iff.mpr noKey
  have refused : IsIdle "sort size".toList := .refused answered
  have shown : IsIdle " show all".toList := .showAll (by decide +kernel)
  have idle : ∀ i line, lines[i]? = some line → (i == 0 || i == 3) = false → IsIdle line := by
    intro i line hline hi
    have bound : i < 4 := (List.getElem?_eq_some_iff.mp hline).1
    obtain rfl | rfl : i = 1 ∨ i = 2 := by
      simp at hi
      omega
    · obtain rfl := Option.some.inj hline
      exact refused
    · obtain rfl := Option.some.inj hline
      exact shown
  obtain ⟨-, unmoved, removed⟩ := steps_perm_and_idle todos lines
  exact ⟨unmoved 2 _ rfl shown, removed _ idle⟩

end Session

end Backlog
