import Backlog.Proofs.LineEndings
import Backlog.Proofs.SessionCourse
import Backlog.Proofs.TextLines
import Backlog.Proofs.Trimming

set_option relaxedAutoImplicit false
set_option autoImplicit false

/-!
# What a line asks

Of a line only the first two words count. Two inputs with equally many lines whose first two words
are the same are answered alike from the greeting to the end, however the words are spaced, whatever
stands behind them and however the lines end.

## Main definitions

* `Backlog.Session.asked` — the words of a line that count.
* `Backlog.Session.AskAlike` — two inputs with the same such words, line by line.
* `Backlog.Session.terse` — an input of which nothing is left but these words.

## Main results

* `Backlog.Session.read_eq_of_asked_eq` — a command is read from the words that count.
* `Backlog.Session.converse_congr` — a session over lines depends on these words only.
* `Backlog.Session.askAlike_iff_terse_eq` — inputs ask alike if they are the same when made terse.
* `Backlog.Session.run_eq_of_askAlike` — inputs that ask alike are answered alike.
-/

namespace Backlog.Session

open Text

variable {coloured : Bool} {line other s t : Text}

/-! ## One line -/

/-- The first two words of a line, or fewer if it has no more. -/
def asked (line : Text) : List Text := (words line).take 2

/-- One more blank at the end of a line asks for nothing. -/
lemma asked_append_blank {c : Char} (blank : isBlank c = true) (line : Text) :
    asked (line ++ [c]) = asked line := by
  have none : words [] = [] := by decide
  rw [asked, words_append_blank blank, none, List.append_nil, asked]

/-- Without one carriage return at its end a line asks for the same. -/
lemma asked_withoutLast (line : Text) : asked (withoutLast '\r' line) = asked line := by
  by_cases last : line.getLast? = some '\r'
  · obtain ⟨rest, rfl⟩ := List.getLast?_eq_some_iff.mp last
    rw [withoutLast_append_singleton, asked_append_blank (by decide)]
  · rw [withoutLast_of_getLast?_ne last]

/-- The terminator of a line asks for nothing. -/
lemma asked_held (line : Text) : asked (held line) = asked line := by
  by_cases last : line.getLast? = some '\n'
  · obtain ⟨body, rfl⟩ := List.getLast?_eq_some_iff.mp last
    rw [held_append_lineFeed, asked_withoutLast, asked_append_blank (by decide)]
  · rw [held, if_neg last]

/-- **A command is read from the words that count**: lines with the same first two words are the
same command, or are refused for the same reason. -/
lemma read_eq_of_asked_eq (h : asked line = asked other) :
    Command.read line = Command.read other := by
  have nth (i : ℕ) (hi : i < 2) : (words line)[i]? = (words other)[i]? := by
    have same := congrArg (·[i]?) h
    simpa only [asked, List.getElem?_take_of_lt hi] using same
  rw [Command.read, Command.read, nth 0 (by decide), nth 1 (by decide)]

/-- Lines with the same first two words are answered alike. -/
lemma answer_eq_of_asked_eq (h : asked line = asked other) (todos : List Todo) :
    answer todos line = answer todos other := by
  rw [answer, answer, read_eq_of_asked_eq h]

/-! ## Sessions over lines -/

/-- **A session over lines depends on their first two words only.**

**Proof sketch.** Induction on the lines. The first lines have the same answer, which either ends
both sessions or leaves both with the same todos for the other lines. -/
lemma converse_congr {lines others : List Text}
    (h : List.Forall₂ (fun line other => asked line = asked other) lines others)
    (todos : List Todo) :
    converse coloured todos (lines.map some) = converse coloured todos (others.map some) := by
  induction h generalizing todos with
  | nil => rfl
  | @cons line other lines others first _ ih =>
    have same : answer todos line = answer todos other := answer_eq_of_asked_eq first todos
    rw [List.map_cons, List.map_cons]
    by_cases ends : (answer todos line).2 = .farewell
    · rw [converse_cons_of_farewell ends, converse_cons_of_farewell (same ▸ ends)]
    · rw [converse_cons_of_ne ends, converse_cons_of_ne (same ▸ ends), same, ih]

/-! ## Inputs -/

/-- The two inputs have equally many lines, and the first two words of each line of one are those of
the line of the other. -/
def AskAlike (s t : Text) : Prop :=
  List.Forall₂ (fun line other => asked line = asked other)
    ((lines s).map held) ((lines t).map held)

/-- What the lines of an input ask, with or without their terminators. -/
lemma askAlike_iff : AskAlike s t ↔ (lines s).map asked = (lines t).map asked := by
  have unended (s : Text) : ((lines s).map held).map asked = (lines s).map asked := by
    rw [List.map_map]
    exact List.map_congr_left fun line _ => asked_held line
  rw [← unended, ← unended, ← List.forall₂_eq_eq_eq, List.forall₂_map_left_iff,
    List.forall₂_map_right_iff, AskAlike]

/-- The lines of an input and those of another one, cut in any way, ask for the same. -/
lemma askAlike_of_isCutAfter {pieces : List Text} (cut : IsCutAfter '\n' t pieces)
    (h : (lines s).map asked = pieces.map asked) : AskAlike s t := by
  rw [isCutAfter_iff.mp cut] at h
  exact askAlike_iff.mpr h

/-! ### Line ends -/

/-- With one carriage return more before every line feed an input asks for the same.

**Proof sketch.** Induction on the lines. Each has the same body as before, and behind it a
terminator of two blanks instead of one. -/
lemma askAlike_withCarriageReturns (s : Text) : AskAlike s (withCarriageReturns s) := by
  have cut := isCutAfter_cutAfter '\n' s
  rw [askAlike_iff, lines]
  generalize cutAfter '\n' s = pieces at cut
  induction cut with
  | nil => rfl
  | rest nonempty absent =>
    rw [withCarriageReturns_of_notMem absent, lines, cutAfter_of_notMem nonempty absent]
  | @piece body s _ absent _ ih =>
    have ends : '\n' ∉ body ++ ['\r'] := by simp [absent]
    have whole : withCarriageReturns (body ++ '\n' :: s) =
        (body ++ ['\r']) ++ '\n' :: withCarriageReturns s := by
      rw [withCarriageReturns_append_cons absent]
      simp
    rw [whole, lines, cutAfter_append_cons ends, List.map_cons, List.map_cons, ih, lines,
      asked_append_blank (by decide), asked_append_blank (by decide),
      asked_append_blank (by decide)]

/-- A line feed that is missing at the end of an input asks for nothing. -/
lemma askAlike_append_lineFeed (nonempty : s ≠ []) (last : s.getLast? ≠ some '\n') :
    AskAlike s (s ++ ['\n']) := by
  have cut := isCutAfter_cutAfter '\n' s
  rw [askAlike_iff, lines]
  generalize cutAfter '\n' s = pieces at cut
  induction cut with
  | nil => exact absurd rfl nonempty
  | @rest s _ absent =>
    rw [lines, cutAfter_append_cons absent, List.map_cons, List.map_cons,
      asked_append_blank (by decide)]
    rfl
  | @piece body s _ absent _ ih =>
    have more : s ≠ [] := by
      rintro rfl
      exact last List.getLast?_concat
    have unended : s.getLast? ≠ some '\n' := by
      obtain ⟨c, s, rfl⟩ := List.exists_cons_of_ne_nil more
      simpa using last
    rw [List.append_assoc, List.cons_append, lines, cutAfter_append_cons absent, List.map_cons,
      List.map_cons, ih more unended]
    rfl

/-! ### Terse inputs -/

/-- The words of a line with one space behind each, and a line feed. -/
def terseLine (ask : List Text) : Text := ask.flatMap (· ++ [' ']) ++ ['\n']

/-- The input in which each line has its first two words with one space behind each, and ends in a
line feed. -/
def terse (t : Text) : Text := (lines t).flatMap fun line => terseLine (asked line)

/-- A terse line asks what it is made of. -/
lemma asked_terseLine (line : Text) : asked (terseLine (asked line)) = asked line := by
  have made (ask : List Text) (parts : ∀ word ∈ ask, word ∈ words line) :
      words (ask.flatMap (· ++ [' '])) = ask := by
    induction ask with
    | nil => decide
    | cons word ask ih =>
      rw [List.forall_mem_cons] at parts
      rw [List.flatMap_cons, List.append_assoc, List.singleton_append,
        words_append_cons (isBlank_of_mem_words parts.1) (ne_nil_of_mem_words parts.1)
          (by decide), ih parts.2]
  rw [terseLine, asked_append_blank (by decide), asked,
    made (asked line) fun word mem => List.mem_of_mem_take mem, asked, List.take_take]
  rfl

/-- A terse line has its only line feed at the end. -/
lemma notMem_terseLine (line : Text) : '\n' ∉ (asked line).flatMap (· ++ [' ']) := by
  rw [List.mem_flatMap]
  rintro ⟨word, mem, feed⟩
  have unbroken := isBlank_of_mem_words (List.mem_of_mem_take mem)
  rcases List.mem_append.mp feed with feed | feed
  · have blank : isBlank '\n' = false := unbroken '\n' feed
    revert blank
    decide
  · revert feed
    decide

/-- An input asks for the same when it is made terse. -/
lemma askAlike_terse (s : Text) : AskAlike s (terse s) := by
  have cut : IsCutAfter '\n' (terse s) ((lines s).map fun line => terseLine (asked line)) := by
    rw [terse, List.flatMap_def]
    refine isCutAfter_flatten fun piece mem => ?_
    obtain ⟨line, -, rfl⟩ := List.mem_map.mp mem
    exact ⟨_, notMem_terseLine line, rfl⟩
  refine askAlike_of_isCutAfter cut ?_
  rw [List.map_map]
  exact List.map_congr_left fun line _ => (asked_terseLine line).symm

/-- **Inputs ask alike if they are the same when made terse**, and only then. -/
lemma askAlike_iff_terse_eq : AskAlike s t ↔ terse s = terse t := by
  constructor
  · intro h
    have made (t : Text) : terse t = ((lines t).map asked).flatMap terseLine := by
      rw [terse, List.flatMap_map]
    rw [made, made, askAlike_iff.mp h]
  · intro h
    have left := askAlike_iff.mp (askAlike_terse s)
    have right := askAlike_iff.mp (askAlike_terse t)
    rw [askAlike_iff, left, h, right]

/-! ## Sessions over inputs -/

/-- **Inputs that ask alike are answered alike**: a session over the one has the same output, leaves
the same order and is as complete as one over the other. An input asks like itself when it is made
terse, with carriage returns before its line feeds, and with a line feed that was missing at its
end. -/
theorem run_eq_of_askAlike (coloured : Bool) (todos : List Todo) (s : Text) :
    (∀ t, AskAlike s t → run coloured todos (toUtf8 s) = run coloured todos (toUtf8 t)) ∧
      (∀ t, AskAlike s t ↔ terse s = terse t) ∧
      AskAlike s (terse s) ∧ AskAlike s (withCarriageReturns s) ∧
      (s ≠ [] → s.getLast? ≠ some '\n' → AskAlike s (s ++ ['\n'])) := by
  refine ⟨fun t h => ?_, fun t => askAlike_iff_terse_eq, askAlike_terse s,
    askAlike_withCarriageReturns s, askAlike_append_lineFeed⟩
  rw [run, run, map_ofUtf8?_inputLines, map_ofUtf8?_inputLines, converse_congr h]

/-- Carriage returns, indentation, wide spaces, a third word and a missing line feed make no
difference. -/
theorem run_eq_of_askAlike_spaced :
    let todos := [Todo.ofRemark "main".toList "// TODO b; 2020; c!".toList]
    let plain := "sort user\n\ndate 2020\n".toList
    let spaced := "\u00a0sort\t\u2003user twice\r\n \r\ndate 2020 or later".toList
    AskAlike plain spaced ∧ AskAlike spaced (spaced ++ ['\n']) ∧
      run true todos (toUtf8 plain) = run true todos (toUtf8 spaced) := by
  intro todos plain spaced
  have alike : AskAlike plain spaced := askAlike_iff.mpr (by decide +kernel)
  obtain ⟨-, -, -, -, ended⟩ := run_eq_of_askAlike true todos spaced
  exact ⟨alike, ended (by decide) (by decide), (run_eq_of_askAlike true todos plain).1 spaced alike⟩

end Backlog.Session
