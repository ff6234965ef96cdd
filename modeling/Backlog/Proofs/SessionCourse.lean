import Backlog.Proofs.InputLines
import Mathlib.Data.List.Forall2

set_option relaxedAutoImplicit false
set_option autoImplicit false

/-!
# The course of a session

A session over an input answers its lines one by one, as they would be answered without an input,
up to the place where it stops. There are three reasons to stop: no line is left, a line asks the
session to end, or a line is not UTF-8. What follows the place where it stops is never looked at.

## Main definitions

* `Backlog.Session.IsStop` — the reasons to stop in front of some lines.
* `Backlog.Session.IsCourse` — the texts that a session processes before it stops.
* `Backlog.Session.BreaksOff` — an input with a line that is not UTF-8 before any `exit`.
* `Backlog.Session.AgreeThroughExit` — two inputs with the same lines up to one that ends a session.
* `Backlog.Session.IsTold`, `Backlog.Session.IsWrittenFor` — the words of a refusal, and what is
  written for a reply.

## Main results

* `Backlog.Session.exists_isCourse` — over all lines a session has a course.
* `Backlog.Session.converse_of_isCourse` — the course decides about output, order and success.
* `Backlog.Session.complete_run_eq_false_iff` — when a session breaks off.
* `Backlog.Session.converse_append_of_exit` — what follows an `exit` does not matter.
* `Backlog.Session.run_eq_iff_isCourse` — the same for inputs.
-/

namespace Backlog.Session

open Text

variable {coloured complete : Bool} {todos : List Todo} {line : Text} {processed : List Text}
  {lines rest : List (List UInt8)}

/-! ## One line -/

/-- A line that is answered with a farewell is an `exit`. -/
lemma read_of_farewell (h : (answer todos line).2 = .farewell) :
    Command.read line = .ok .exit := by
  unfold answer at h
  cases read : Command.read line with
  | error why => simp [read] at h
  | ok command =>
    cases command with
    | exit => rfl
    | _ => simp [read, Command.reply] at h

/-- An `exit` is answered with a farewell and leaves the todos as they are. -/
lemma answer_of_exit (h : Command.read line = .ok .exit) (todos : List Todo) :
    answer todos line = (todos, .farewell) := by
  rw [answer, h]
  rfl

/-- A farewell ends the session, and the todos stay as they are. -/
lemma converse_cons_of_farewell (h : (answer todos line).2 = .farewell)
    (rest : List (Option Text)) :
    converse coloured todos (some line :: rest) = ⟨[], todos, true⟩ := by
  rw [converse, answer_of_exit (read_of_farewell h)]

/-- After any other reply the session goes on with the todos that the line has left. -/
lemma converse_cons_of_ne (h : (answer todos line).2 ≠ .farewell) (rest : List (Option Text)) :
    converse coloured todos (some line :: rest) =
      ⟨(answer todos line).2.written coloured ++
          (converse coloured (answer todos line).1 rest).output,
        (converse coloured (answer todos line).1 rest).todos,
        (converse coloured (answer todos line).1 rest).complete⟩ := by
  rw [converse]
  -- the match is on the pair, and reduces once the reply is known to be no farewell
  generalize answer todos line = answered at h
  obtain ⟨todos, reply⟩ := answered
  cases reply with
  | farewell => exact absurd rfl h
  | listing shown => rfl
  | refused why => rfl

/-! ## The course over lines -/

/-- With these todos the session stops in front of these lines, and it is complete or breaks off:
there are no lines, the first is answered with a farewell, or the first is not UTF-8. -/
inductive IsStop (todos : List Todo) : List (List UInt8) → Bool → Prop
  | exhausted : IsStop todos [] true
  | farewell {line : Text} {rest : List (List UInt8)} :
      (answer todos line).2 = .farewell → IsStop todos (toUtf8 line :: rest) true
  | broken {bytes : List UInt8} {rest : List (List UInt8)} :
      (∀ t, bytes ≠ toUtf8 t) → IsStop todos (bytes :: rest) false

/-- The session over the lines processes the texts and then stops. The texts are the first of the
lines, and none of them is answered with a farewell. -/
structure IsCourse (todos : List Todo) (lines : List (List UInt8)) (processed : List Text)
    (complete : Bool) : Prop where
  goesOn : ∀ step ∈ steps todos processed, step.2 ≠ .farewell
  stops : ∃ rest, lines = processed.map toUtf8 ++ rest ∧
    IsStop (after todos processed) rest complete

/-- A session that processes nothing stops at once. -/
lemma isCourse_nil_iff : IsCourse todos lines [] complete ↔ IsStop todos lines complete := by
  constructor
  · rintro ⟨-, rest, rfl, stop⟩
    exact stop
  · intro stop
    exact ⟨nofun, lines, rfl, stop⟩

/-- A session that processes a text first goes on with the todos that the text has left. -/
lemma isCourse_cons_iff :
    IsCourse todos lines (line :: processed) complete ↔
      ∃ rest, lines = toUtf8 line :: rest ∧ (answer todos line).2 ≠ .farewell ∧
        IsCourse (answer todos line).1 rest processed complete := by
  constructor
  · rintro ⟨goesOn, rest, rfl, stop⟩
    rw [steps, List.forall_mem_cons] at goesOn
    exact ⟨processed.map toUtf8 ++ rest, rfl, goesOn.1, goesOn.2, rest, rfl, stop⟩
  · rintro ⟨_, rfl, goesOn, later, rest, rfl, stop⟩
    refine ⟨?_, rest, rfl, stop⟩
    rw [steps, List.forall_mem_cons]
    exact ⟨goesOn, later⟩

/-- **Over all lines a session has a course.**

**Proof sketch.** Induction on the lines. The first line is a reason to stop, unless it is a text
that is answered otherwise than with a farewell; then it comes before the course over the rest. -/
lemma exists_isCourse (todos : List Todo) (lines : List (List UInt8)) :
    ∃ processed complete, IsCourse todos lines processed complete := by
  induction lines generalizing todos with
  | nil => exact ⟨[], true, isCourse_nil_iff.mpr .exhausted⟩
  | cons bytes rest ih =>
    cases read : ofUtf8? bytes with
    | none => exact ⟨[], false, isCourse_nil_iff.mpr (.broken (ofUtf8?_eq_none_iff.mp read))⟩
    | some line =>
      obtain rfl := ofUtf8?_eq_some_iff.mp read
      by_cases h : (answer todos line).2 = .farewell
      · exact ⟨[], true, isCourse_nil_iff.mpr (.farewell h)⟩
      · obtain ⟨processed, complete, course⟩ := ih (answer todos line).1
        exact ⟨line :: processed, complete, isCourse_cons_iff.mpr ⟨rest, rfl, h, course⟩⟩

/-- Where a session stops it writes nothing more. -/
lemma converse_of_isStop (h : IsStop todos rest complete) :
    converse coloured todos (rest.map ofUtf8?) = ⟨[], todos, complete⟩ := by
  cases h with
  | exhausted => rfl
  | farewell h => rw [List.map_cons, ofUtf8?_toUtf8, converse_cons_of_farewell h]
  | broken h => rw [List.map_cons, ofUtf8?_eq_none_iff.mpr h, converse]

/-- **The course of a session decides about its output, order and success**: it writes the replies
to the texts that it processes, and leaves the todos as these texts do.

**Proof sketch.** Induction on the texts. The first is answered and written, and the others make up
the course of the session that goes on with the todos then. -/
lemma converse_of_isCourse (h : IsCourse todos lines processed complete) :
    converse coloured todos (lines.map ofUtf8?) =
      ⟨(steps todos processed).flatMap (·.2.written coloured), after todos processed,
        complete⟩ := by
  induction processed generalizing todos lines with
  | nil => exact converse_of_isStop (isCourse_nil_iff.mp h)
  | cons line processed ih =>
    obtain ⟨rest, rfl, goesOn, later⟩ := isCourse_cons_iff.mp h
    rw [List.map_cons, ofUtf8?_toUtf8, converse_cons_of_ne goesOn, ih later, steps,
      List.flatMap_cons]
    rfl

/-! ## Inputs that break off -/

/-- Texts are all answered otherwise than with a farewell if none of them is an `exit`. -/
lemma forall_steps_ne_farewell_iff :
    (∀ step ∈ steps todos processed, step.2 ≠ .farewell) ↔
      ∀ line ∈ processed, Command.read line ≠ .ok .exit := by
  have answered (todos : List Todo) (line : Text) :
      (answer todos line).2 = .farewell ↔ Command.read line = .ok .exit :=
    ⟨read_of_farewell, fun exit => congrArg Prod.snd (answer_of_exit exit todos)⟩
  induction processed generalizing todos with
  | nil => simp [steps]
  | cons line processed ih =>
    rw [steps, List.forall_mem_cons, List.forall_mem_cons]
    exact and_congr (not_congr (answered todos line)) ih

/-- **The input breaks off**: one of its lines is not UTF-8, and no line before it is an `exit`. -/
def BreaksOff (input : List UInt8) : Prop :=
  ∃ (processed : List Text) (broken : List UInt8) (rest : List (List UInt8)),
    AreInputLines (processed.map toUtf8 ++ broken :: rest) input ∧ (∀ t, broken ≠ toUtf8 t) ∧
      ∀ line ∈ processed, Command.read line ≠ .ok .exit

/-- **A session over an input is complete unless the input breaks off**, whatever the todos are. -/
theorem complete_run_eq_false_iff {input : List UInt8} :
    (run coloured todos input).complete = false ↔ BreaksOff input := by
  have decided {processed : List Text} {complete : Bool}
      (course : IsCourse todos (inputLines input) processed complete) :
      (run coloured todos input).complete = complete := by
    rw [run, converse_of_isCourse course]
  constructor
  · intro broken
    obtain ⟨processed, complete, course⟩ := exists_isCourse todos (inputLines input)
    obtain rfl := (decided course).symm.trans broken
    obtain ⟨rest, lines, stop⟩ := course.stops
    cases stop with
    | @broken bytes rest unread =>
      exact ⟨processed, bytes, rest, areInputLines_iff.mpr lines.symm, unread,
        forall_steps_ne_farewell_iff.mp course.goesOn⟩
  · rintro ⟨processed, broken, rest, lines, unread, goesOn⟩
    exact decided ⟨forall_steps_ne_farewell_iff.mpr goesOn, broken :: rest,
      (areInputLines_iff.mp lines).symm, .broken unread⟩

/-! ## What follows an exit -/

/-- **What follows an `exit` does not matter**, whether it is UTF-8 or not.

**Proof sketch.** Induction on the lines up to the end of the `exit`. If the session stops at the
first of them, nothing behind it matters. Otherwise the first line is no `exit`, so that stands
among the others. -/
lemma converse_append_of_exit {shared : List (Option Text)} (mem : some line ∈ shared)
    (exit : Command.read line = .ok .exit) (todos : List Todo) (others : List (Option Text)) :
    converse coloured todos (shared ++ others) = converse coloured todos shared := by
  induction shared generalizing todos with
  | nil => cases mem
  | cons first shared ih =>
    rw [List.cons_append]
    cases first with
    | none => rw [converse, converse]
    | some first =>
      by_cases h : (answer todos first).2 = .farewell
      · rw [converse_cons_of_farewell h, converse_cons_of_farewell h]
      · -- a line that does not end the session is another one than the `exit`
        have later : some line ∈ shared := by
          refine (List.mem_cons.mp mem).resolve_left fun same => h ?_
          rw [← Option.some.inj same, answer_of_exit exit]
        rw [converse_cons_of_ne h, converse_cons_of_ne h, ih later]

/-- The two inputs have the same lines up to one that is an `exit`, whatever comes then. -/
def AgreeThroughExit (input other : List UInt8) : Prop :=
  ∃ (shared : List (List UInt8)) (line : Text) (rest others : List (List UInt8)),
    AreInputLines (shared ++ toUtf8 line :: rest) input ∧
      AreInputLines (shared ++ toUtf8 line :: others) other ∧ Command.read line = .ok .exit

/-- Inputs agree in this way if they begin with the same bytes, the last line of which is an `exit`
that has ended. -/
lemma agreeThroughExit_append {shared : List UInt8} (ends : shared.getLast? = some 0x0A)
    (h : AreInputLines (lines ++ [toUtf8 line]) shared) (exit : Command.read line = .ok .exit)
    (input other : List UInt8) : AgreeThroughExit (shared ++ input) (shared ++ other) := by
  have continued (input : List UInt8) :
      AreInputLines (lines ++ toUtf8 line :: inputLines input) (shared ++ input) := by
    rw [areInputLines_iff, inputLines_append ends, ← areInputLines_iff.mp h, List.append_assoc,
      List.singleton_append]
  exact ⟨lines, line, inputLines input, inputLines other, continued input, continued other, exit⟩

/-- The lines behind an `exit` do not change what a session does. -/
lemma run_eq_of_exit {input : List UInt8} (h : AreInputLines (lines ++ toUtf8 line :: rest) input)
    (exit : Command.read line = .ok .exit) (coloured : Bool) (todos : List Todo) :
    run coloured todos input =
      { converse coloured todos ((lines ++ [toUtf8 line]).map ofUtf8?) with
        output := greeting ++
          (converse coloured todos ((lines ++ [toUtf8 line]).map ofUtf8?)).output } := by
  have mem : some line ∈ (lines ++ [toUtf8 line]).map ofUtf8? := by
    rw [List.map_append, List.map_singleton, ofUtf8?_toUtf8]
    exact List.mem_append_right _ (List.mem_singleton_self _)
  rw [run, ← areInputLines_iff.mp h, List.append_cons, List.map_append,
    converse_append_of_exit mem exit]

/-! ## What is written -/

/-- **The words of a refusal.** -/
inductive IsTold : Refusal → Text → Prop
  | unknownCommand : IsTold .unknownCommand "wrong command".toList
  | invalidSortKey : IsTold .invalidSortKey
      "wrong parameter, use parameters 'importance', 'user' or 'date'".toList
  | invalidDate : IsTold .invalidDate
      "Please, write parameter in correct format yyyy[-mm-dd] with correct values".toList

/-- **What is written for a reply**: the table of the todos that are shown and an empty line, the
words of a refusal on a line of their own, between the signs for red and for no colour if there are
colours, and nothing for a farewell. -/
inductive IsWrittenFor (coloured : Bool) : Reply → Text → Prop
  | listing (shown : List Todo) :
      IsWrittenFor coloured (.listing shown) (Table.render shown ++ ['\n'])
  | refused {why : Refusal} {words : Text} (told : IsTold why words) :
      IsWrittenFor coloured (.refused why)
        ((if coloured then "\x1b[31m".toList ++ words ++ "\x1b[0m".toList else words) ++ ['\n'])
  | farewell : IsWrittenFor coloured .farewell []

/-- The words of a refusal are its message. -/
lemma isTold_iff {why : Refusal} {words : Text} : IsTold why words ↔ words = why.message := by
  constructor
  · rintro (- | - | -) <;> rfl
  · rintro rfl
    cases why with
    | unknownCommand => exact .unknownCommand
    | invalidSortKey => exact .invalidSortKey
    | invalidDate => exact .invalidDate

/-- One text is written for each reply. -/
lemma isWrittenFor_iff {reply : Reply} {part : Text} :
    IsWrittenFor coloured reply part ↔ reply.written coloured = part := by
  constructor
  · intro h
    cases h with
    | listing shown => rfl
    | refused told =>
      obtain rfl := isTold_iff.mp told
      rfl
    | farewell => rfl
  · rintro rfl
    cases reply with
    | listing shown => exact .listing shown
    | refused why => exact .refused (isTold_iff.mpr rfl)
    | farewell => exact .farewell

/-- What is written for the replies one by one makes up the output. -/
lemma forall₂_isWrittenFor_iff {answered : List (List Todo × Reply)} {parts : List Text} :
    List.Forall₂ (fun step part => IsWrittenFor coloured step.2 part) answered parts ↔
      answered.map (·.2.written coloured) = parts := by
  simp only [isWrittenFor_iff]
  rw [← List.forall₂_map_left_iff, List.forall₂_eq_eq_eq]

/-! ## The course over an input -/

/-- **A session over an input answers its lines one by one** until it stops. Its transcript is the
one whose output is the greeting and what is written for the replies to the lines before that, each
given about the todos that the lines before it have left, whose order is the order after them, and
which is complete unless the session stops at a line that is not UTF-8. It stops at such a line if
and only if there is one and no `exit` before it. What follows an `exit` does not matter. -/
theorem run_eq_iff_isCourse (coloured : Bool) (todos : List Todo) (input : List UInt8) :
    (∀ transcript, run coloured todos input = transcript ↔
      ∃ lines processed parts, AreInputLines lines input ∧
        IsCourse todos lines processed transcript.complete ∧
        List.Forall₂ (fun step part => IsWrittenFor coloured step.2 part)
          (steps todos processed) parts ∧
        transcript.output = "Please, write your command!\n".toList ++ parts.flatten ∧
        transcript.todos = after todos processed) ∧
      ((run coloured todos input).complete = false ↔ BreaksOff input) ∧
      ∀ other, AgreeThroughExit input other →
        run coloured todos input = run coloured todos other := by
  have written {processed : List Text} {complete : Bool}
      (course : IsCourse todos (inputLines input) processed complete) :
      run coloured todos input =
        ⟨greeting ++ ((steps todos processed).map (·.2.written coloured)).flatten,
          after todos processed, complete⟩ := by
    rw [run, converse_of_isCourse course, List.flatMap_def]
  refine ⟨fun transcript => ⟨?_, ?_⟩, complete_run_eq_false_iff, ?_⟩
  · rintro rfl
    obtain ⟨processed, complete, course⟩ := exists_isCourse todos (inputLines input)
    rw [written course]
    exact ⟨inputLines input, processed, _, areInputLines_iff.mpr rfl, course,
      forall₂_isWrittenFor_iff.mpr rfl, rfl, rfl⟩
  · rintro ⟨lines, processed, parts, hlines, course, hparts, output, order⟩
    rw [areInputLines_iff.mp hlines] at course
    have greets : greeting = "Please, write your command!\n".toList := rfl
    rw [written course, forall₂_isWrittenFor_iff.mp hparts, greets, ← output, ← order]
  · rintro other ⟨shared, line, rest, others, hinput, hother, exit⟩
    rw [run_eq_of_exit hinput exit, run_eq_of_exit hother exit]

/-- A line that is refused, a line that is answered with a table, and an `exit`. Behind it a byte
that is not UTF-8 or a further command makes no difference. -/
theorem run_eq_run_broken_rest :
    let shared := toUtf8 "shwo\nshow\r\nexit\n".toList
    let todos := [Todo.ofRemark "main".toList "// TODO b; 2020; c!".toList]
    let written := ["Please, write your command!",
      "\x1b[31mwrong command\x1b[0m",
      "     |  user  |  date  |  comment  |  fileName  ",
      "------------------------------------------------",
      "  !  |  b     |  2020  |  c!       |  main      ",
      "------------------------------------------------",
      ""]
    AgreeThroughExit (shared ++ [0xFF]) (shared ++ toUtf8 "show\n".toList) ∧
      run true todos (shared ++ [0xFF]) = run true todos (shared ++ toUtf8 "show\n".toList) ∧
      run true todos (shared ++ [0xFF]) =
        ⟨written.flatMap (·.toList ++ ['\n']), todos, true⟩ := by
  intro shared todos written
  have lines : AreInputLines ([toUtf8 "shwo".toList, toUtf8 "show".toList] ++
      [toUtf8 "exit".toList]) shared := areInputLines_iff.mpr (by decide +kernel)
  have agree : AgreeThroughExit (shared ++ [0xFF]) (shared ++ toUtf8 "show\n".toList) :=
    agreeThroughExit_append (by decide +kernel) lines (by decide +kernel) _ _
  have answered : steps todos ["shwo".toList, "show".toList] =
      [(todos, .refused .unknownCommand), (todos, .listing todos)] := by decide +kernel
  have course : IsCourse todos
      ([toUtf8 "shwo".toList, toUtf8 "show".toList] ++ [toUtf8 "exit".toList, [0xFF]])
      ["shwo".toList, "show".toList] true := by
    refine ⟨?_, [toUtf8 "exit".toList, [0xFF]], rfl, .farewell (by decide +kernel)⟩
    rw [answered]
    decide +kernel
  have parts : List.Forall₂ (fun step part => IsWrittenFor true step.2 part)
      (steps todos ["shwo".toList, "show".toList])
      ["\x1b[31m".toList ++ "wrong command".toList ++ "\x1b[0m".toList ++ ['\n'],
        Table.render todos ++ ['\n']] := by
    rw [answered]
    exact .cons (.refused .unknownCommand) (.cons (.listing todos) .nil)
  obtain ⟨described, -, same⟩ := run_eq_iff_isCourse true todos (shared ++ [0xFF])
  exact ⟨agree, same _ agree, (described _).mpr ⟨_, _, _, areInputLines_iff.mpr (by decide +kernel),
    course, parts, by decide +kernel, rfl⟩⟩

end Backlog.Session
