import Backlog.Proofs.PathResolution
import Backlog.Proofs.SearchVisits
import Backlog.Proofs.SessionCourse
import Backlog.Program

set_option relaxedAutoImplicit false
set_option autoImplicit false

/-!
# The outcome of the program

The program is made of four parts, each of which can fail: it reads its arguments, finds the place
of the path, searches the directory there, and holds a session over the todos. The first part that
fails decides about the exit code, and then nothing has been written; only a session that breaks off
has written something before. The greeting tells that the search has succeeded.

## Main definitions

* `Backlog.Program.Ends` — the exit codes and outputs with which the program ends.
* `Backlog.Program.Searches` — the search of the program succeeds.

## Main results

* `Backlog.Program.run_of_leadsTo` — what is searched is the directory that the path of the place
  opens.
* `Backlog.Program.greeting_prefix_iff` — the program greets if and only if the search succeeds.
* `Backlog.Program.ends_iff_run` — the program ends as it is described, and in no other way.
-/

namespace Backlog.Program

open Text

variable {fs : FileSystem} {arguments : List Text} {input : List UInt8} {place : List Text}
  {configuration : Configuration} {found : Findings}

/-! ## The parts -/

/-- A session that is not complete ends the program with a failure. -/
lemma exitCode_ended (transcript : Transcript) :
    (ended transcript).exitCode = if transcript.complete then 0 else 1 := by
  unfold ended
  split_ifs <;> rfl

/-- The output of a session is the output of the program. -/
lemma output_ended (transcript : Transcript) : (ended transcript).output = transcript.output := by
  unfold ended
  split_ifs <;> rfl

/-- Without a configuration there is nothing to search. -/
lemma run_of_interruption {interruption : Interruption}
    (read : Configuration.read arguments = .error interruption) (fs : FileSystem)
    (input : List UInt8) : run fs arguments input = interrupted interruption := by
  rw [run, read]

/-- **A path that leads to a place** decides between a search and a failure: the directory that is
searched is the one that the path of the place opens. -/
theorem run_of_leadsTo (proper : fs.IsProper)
    (read : Configuration.read arguments = .ok configuration)
    (leads : fs.LeadsTo configuration.path place) (input : List UInt8) :
    run fs arguments input =
      (fs.found? configuration.search (absolutePath place)).elim
        (notSearchable (absolutePath place))
        fun found => ended (Session.run false found.todos input) := by
  simp only [run, read, FileSystem.resolve_eq_ok_iff.mpr leads, FileSystem.found?,
    leads.opened?_absolutePath proper]
  cases fs.directory? place <;> rfl

/-- A path that leads nowhere ends the program with a failure. -/
lemma run_of_nowhere (read : Configuration.read arguments = .ok configuration)
    (nowhere : ∀ place, ¬ fs.LeadsTo configuration.path place) (input : List UInt8) :
    ∃ fault : PathFault, run fs arguments input = lost configuration.path fault.message := by
  cases resolved : fs.resolve configuration.path with
  | ok place => exact absurd (FileSystem.resolve_eq_ok_iff.mp resolved) (nowhere place)
  | error fault =>
    refine ⟨fault, ?_⟩
    simp only [run, read, resolved]

/-! ## The whole -/

/-- **How the program ends**, with an exit code and an output. If the arguments ask for help or for
the version, or are wrong, the rest does not matter. If the path leads nowhere or to no directory,
nothing is written. Otherwise a session is held over what is found, and it breaks off or not. -/
inductive Ends (fs : FileSystem) (arguments : List Text) (input : List UInt8) : ℕ → Text → Prop
  | help (asked : Configuration.read arguments = .error .help) : Ends fs arguments input 0 helpText
  | version (asked : Configuration.read arguments = .error .version) :
      Ends fs arguments input 0 versionText
  | misuse {error : UsageError} (wrong : Configuration.read arguments = .error (.misuse error)) :
      Ends fs arguments input 2 []
  | lost {configuration : Configuration} (read : Configuration.read arguments = .ok configuration)
      (nowhere : ∀ place, ¬ fs.LeadsTo configuration.path place) : Ends fs arguments input 1 []
  | notDirectory {configuration : Configuration} {place : List Text}
      (read : Configuration.read arguments = .ok configuration)
      (leads : fs.LeadsTo configuration.path place) (noDirectory : fs.directory? place = none) :
      Ends fs arguments input 1 []
  | brokenOff {configuration : Configuration} {place : List Text} {found : Findings}
      (read : Configuration.read arguments = .ok configuration)
      (leads : fs.LeadsTo configuration.path place)
      (searched : fs.found? configuration.search (absolutePath place) = some found)
      (broken : Session.BreaksOff input) :
      Ends fs arguments input 1 (Session.run false found.todos input).output
  | complete {configuration : Configuration} {place : List Text} {found : Findings}
      (read : Configuration.read arguments = .ok configuration)
      (leads : fs.LeadsTo configuration.path place)
      (searched : fs.found? configuration.search (absolutePath place) = some found)
      (whole : ¬ Session.BreaksOff input) :
      Ends fs arguments input 0 (Session.run false found.todos input).output

/-- **The search succeeds**: the arguments give a configuration, its path leads to a place, and the
path of the place to what is found. -/
def Searches (fs : FileSystem) (arguments : List Text) : Prop :=
  ∃ configuration place found, Configuration.read arguments = .ok configuration ∧
    fs.LeadsTo configuration.path place ∧
    fs.found? configuration.search (absolutePath place) = some found

/-- The program ends in one of the ways that are described.

**Proof sketch.** The parts come one after the other: whether the arguments are read, whether the
path leads anywhere, whether there is a directory, and whether the input breaks off. -/
lemma ends_run (proper : fs.IsProper) (arguments : List Text) (input : List UInt8) :
    Ends fs arguments input (run fs arguments input).exitCode (run fs arguments input).output := by
  cases read : Configuration.read arguments with
  | error interruption =>
    rw [run_of_interruption read]
    cases interruption with
    | help => exact .help read
    | version => exact .version read
    | misuse error => exact .misuse read
  | ok configuration =>
    by_cases somewhere : ∃ place, fs.LeadsTo configuration.path place
    · obtain ⟨place, leads⟩ := somewhere
      rw [run_of_leadsTo proper read leads]
      cases searched : fs.found? configuration.search (absolutePath place) with
      | none =>
        refine .notDirectory read leads ?_
        rwa [FileSystem.found?, leads.opened?_absolutePath proper,
          Option.map_eq_none_iff] at searched
      | some found =>
        rw [Option.elim_some, exitCode_ended, output_ended]
        cases complete : (Session.run false found.todos input).complete with
        | false =>
          exact .brokenOff read leads searched (Session.complete_run_eq_false_iff.mp complete)
        | true =>
          refine .complete read leads searched fun broken => ?_
          rw [Session.complete_run_eq_false_iff.mpr broken] at complete
          cases complete
    · obtain ⟨fault, outcome⟩ := run_of_nowhere read (not_exists.mp somewhere) input
      rw [outcome]
      exact .lost read (not_exists.mp somewhere)

/-- The program ends only as it is described. -/
lemma Ends.eq_run (proper : fs.IsProper) {code : ℕ} {output : Text}
    (ends : Ends fs arguments input code output) :
    (run fs arguments input).exitCode = code ∧ (run fs arguments input).output = output := by
  cases ends with
  | help asked | version asked | misuse asked =>
    rw [run_of_interruption asked]
    exact ⟨rfl, rfl⟩
  | lost read nowhere =>
    obtain ⟨fault, outcome⟩ := run_of_nowhere read nowhere input
    rw [outcome]
    exact ⟨rfl, rfl⟩
  | notDirectory read leads noDirectory =>
    rw [run_of_leadsTo proper read leads, FileSystem.found?, leads.opened?_absolutePath proper,
      noDirectory]
    exact ⟨rfl, rfl⟩
  | brokenOff read leads searched broken =>
    rw [run_of_leadsTo proper read leads, searched, Option.elim_some, exitCode_ended, output_ended,
      Session.complete_run_eq_false_iff.mpr broken]
    exact ⟨rfl, rfl⟩
  | @complete configuration place found read leads searched whole =>
    have complete : (Session.run false found.todos input).complete = true := by
      rw [← Bool.not_eq_false, Session.complete_run_eq_false_iff]
      exact whole
    rw [run_of_leadsTo proper read leads, searched, Option.elim_some, exitCode_ended, output_ended,
      complete]
    exact ⟨rfl, rfl⟩

/-- **The program greets if and only if the search succeeds.**

**Proof sketch.** A session greets first. The other outputs begin with another letter, or are
empty. -/
lemma greeting_prefix_iff (proper : fs.IsProper) :
    greeting <+: (run fs arguments input).output ↔ Searches fs arguments := by
  constructor
  · have ends := ends_run proper arguments input
    generalize (run fs arguments input).exitCode = code at ends
    generalize (run fs arguments input).output = output at ends ⊢
    intro greets
    cases ends with
    | help | version | misuse | lost | notDirectory => exact absurd greets (by decide +kernel)
    | brokenOff read leads searched | complete read leads searched =>
      exact ⟨_, _, _, read, leads, searched⟩
  · rintro ⟨configuration, place, found, read, leads, searched⟩
    rw [run_of_leadsTo proper read leads, searched, Option.elim_some, output_ended]
    exact ⟨_, rfl⟩

/-- **The program is the composition of its parts.** In a file system in which one can work it ends
as it is described, and in no other way. If it reads no configuration, neither the file system nor
the input matters. It greets if and only if the search succeeds. -/
theorem ends_iff_run (proper : fs.IsProper) (arguments : List Text) (input : List UInt8) :
    (∀ code output, Ends fs arguments input code output ↔
      (run fs arguments input).exitCode = code ∧ (run fs arguments input).output = output) ∧
      (∀ interruption, Configuration.read arguments = .error interruption →
        ∀ other input', run other arguments input' = run fs arguments input) ∧
      (greeting <+: (run fs arguments input).output ↔ Searches fs arguments) := by
  refine ⟨fun code output => ⟨fun ends => ends.eq_run proper, ?_⟩, ?_, ?_⟩
  · rintro ⟨rfl, rfl⟩
    exact ends_run proper arguments input
  · intro interruption read other input'
    rw [run_of_interruption read, run_of_interruption read]
  · exact greeting_prefix_iff proper

/-- A path that is a link to a directory beside it, and an input that breaks off behind a line that
is answered and before an `exit`. -/
theorem ends_iff_run_linked :
    let t := "// TODO w; 2021; x\n".toList
    let inner : Entries := [("main.js".toList, .file (toUtf8 t))]
    let outer : Entries := [("src".toList, .directory inner), ("l".toList, .link "./src".toList)]
    let fs : FileSystem := ⟨[("w".toList, .directory outer)], ["w".toList]⟩
    let input := toUtf8 "show\n".toList ++ [0xFF, 0x0A] ++ toUtf8 "exit\n".toList
    let todos := Todo.inText "main".toList t
    fs.IsProper ∧ (run fs ["l".toList] input).exitCode = 1 ∧
      (run fs ["l".toList] input).output = (Session.run false todos input).output ∧
      greeting <+: (run fs ["l".toList] input).output := by
  intro t inner outer fs input todos
  let file : SourceFile := ⟨[], "main".toList, "js".toList, toUtf8 t⟩
  have isName : IsEntryName file.name := ⟨by decide, by decide⟩
  have proper : fs.IsProper := by
    have innerTree : inner.IsTree := Entries.isTree_singleton isName nofun
    have outerTree : outer.IsTree := by
      refine .intro (by decide) ?_ ?_
      · simp only [outer, List.forall_mem_cons]
        exact ⟨⟨by decide, by decide⟩, ⟨by decide, by decide⟩, List.forall_mem_nil _⟩
      · intro name below mem
        have same : name = "src".toList ∧ below = inner := by simpa [outer] using mem
        exact same.2 ▸ innerTree
    refine ⟨Entries.isTree_singleton ⟨by decide, by decide⟩ fun below isDirectory => ?_,
      ⟨_, rfl, nofun⟩, by decide, by decide⟩
    exact Node.directory.inj isDirectory ▸ outerTree
  have read : Configuration.read ["l".toList] = .ok ⟨"l".toList, ["js".toList], false, false⟩ := by
    rfl
  have leads : fs.LeadsTo "l".toList ["w".toList, "src".toList] := by
    have steps : stepsOf "l".toList = ["l".toList] := by decide +kernel
    have target : stepsOf "./src".toList = [['.'], "src".toList] := by decide +kernel
    have working : fs.root.node? ["w".toList] = some (.directory outer) := rfl
    refine ⟨by decide, ?_⟩
    rw [steps]
    refine .link working ⟨by decide, by decide, by decide⟩ rfl ?_
    rw [target]
    exact .stay working (.inr rfl)
      (.enter working ⟨by decide, by decide, by decide⟩ rfl nofun .done)
  have searched : fs.found? .default (absolutePath ["w".toList, "src".toList]) =
      some ⟨todos, 1, 0⟩ := by
    have opened : fs.opened? (absolutePath ["w".toList, "src".toList]) =
        some [(file.name, .file file.bytes)] := leads.opened?_absolutePath proper
    exact FileSystem.found?_single opened isName
      ⟨by decide, by decide, "js".toList, by decide, by decide⟩ ⟨⟨by decide, rfl⟩, by decide⟩
  have broken : Session.BreaksOff input := by
    refine ⟨["show".toList], [0xFF], [toUtf8 "exit".toList],
      Session.areInputLines_iff.mpr (by decide +kernel), ?_, ?_⟩
    · exact ofUtf8?_eq_none_iff.mp (by decide +kernel)
    · rw [List.forall_mem_singleton]
      decide +kernel
  obtain ⟨ends, -, greets⟩ := ends_iff_run proper ["l".toList] input
  obtain ⟨code, output⟩ := (ends _ _).mp (.brokenOff read leads searched broken)
  exact ⟨proper, code, output, greets.mpr ⟨_, _, _, read, leads, searched⟩⟩

end Backlog.Program
