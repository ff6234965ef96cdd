import Backlog.Invocation.Reading
import Backlog.Session.Transcript
import Backlog.Source.Path

set_option relaxedAutoImplicit false
set_option autoImplicit false

/-!
# The program

The program reads its arguments, searches the directory they name and holds a session over the
todos it finds.

## Main definitions

* `Backlog.Outcome` — the exit code, the output, and the report of a failure.
* `Backlog.failureReport` — the form of such a report.
* `Backlog.Program.run` — the whole program over a file system and an input.
-/

namespace Backlog

/-! ## Texts -/

/-- The lines of the answer to a request for help. -/
def helpLines : List String :=
  ["Collect `// TODO user; date; comment` annotations and query them interactively",
    "",
    "Usage: todo-table [OPTIONS] [PATH]",
    "",
    "Arguments:",
    "  [PATH]  Path to scan (defaults to current directory) [default: .]",
    "",
    "Options:",
    "      --ext <EXT>  File extension to collect, without the dot (repeatable) [default: js]",
    "      --no-ignore  Also scan VCS, dependency and build directories",
    "  -v, --verbose    Log debug output to stderr",
    "  -h, --help       Print help",
    "  -V, --version    Print version"]

/-- The answer to a request for help. -/
def helpText : Text := helpLines.flatMap fun line => line.toList ++ ['\n']

/-- The answer to a request for the version. -/
def versionText : Text := "todo-table 0.1.0\n".toList

/-! ## Reports -/

/-- A text with spaces before each of its lines but the first. -/
def hanging (width : Nat) (t : Text) : Text :=
  t.flatMap fun c => if c = '\n' then '\n' :: List.replicate width ' ' else [c]

/-- A cause with its number. -/
def numberedCause (n : Nat) (cause : Text) : Text :=
  (Nat.toDigits 10 n).leftpad 5 ' ' ++ ": ".toList ++ hanging 7 cause

/-- The causes of a failure, one below the other, numbered if there are several. -/
def causeLines : List Text → List Text
  | [cause] => [List.replicate 4 ' ' ++ hanging 4 cause]
  | causes => causes.mapIdx numberedCause

/-- The report of what failed and of what caused it. -/
def failureReport (failure : Text) (causes : List Text) : Text :=
  "Error: ".toList ++ failure ++ "\n\nCaused by:".toList ++ (causeLines causes).flatMap ('\n' :: ·) ++
    ['\n']

/-! ## Outcomes -/

/-- How the program ends: its exit code, its output, and the report if it failed. -/
structure Outcome where
  exitCode : Nat
  output : Text
  report? : Option Text
deriving DecidableEq

namespace Program

/-- The outcome where there is nothing to search. -/
def interrupted : Interruption → Outcome
  | .help => ⟨0, helpText, none⟩
  | .version => ⟨0, versionText, none⟩
  | .misuse _ => ⟨2, [], none⟩

/-- The outcome where the path leads nowhere, for the cause that is given. -/
def lost (path cause : Text) : Outcome :=
  ⟨1, [], some (failureReport ("Invalid scan path: ".toList ++ path) [cause])⟩

/-- What is said of a path that leads to something else than a directory. -/
def notDirectoryMessage (path : Text) : Text :=
  "Path error: ".toList ++ path ++ " is not a directory".toList

/-- The outcome where the path leads to something else than a directory. -/
def notSearchable (path : Text) : Outcome :=
  ⟨1, [], some (failureReport ("Failed to scan ".toList ++ path) [notDirectoryMessage path])⟩

/-- What is said of input that is not UTF-8. -/
def notUtf8Message : Text := "stream did not contain valid UTF-8".toList

/-- The same, as a failure of reading. -/
def brokenInputMessage : Text := "IO error: ".toList ++ notUtf8Message

/-- The report of a session that broke off. -/
def brokenInputReport : Text :=
  failureReport "Failed to read commands".toList [brokenInputMessage, notUtf8Message]

/-- The outcome of a session. -/
def ended (transcript : Transcript) : Outcome :=
  if transcript.complete then ⟨0, transcript.output, none⟩
  else ⟨1, transcript.output, some brokenInputReport⟩

/-- The whole program, without colours. -/
def run (fs : FileSystem) (arguments : List Text) (input : List UInt8) : Outcome :=
  match Configuration.read arguments with
  | .error interruption => interrupted interruption
  | .ok configuration =>
    match fs.resolve configuration.path with
    | .error fault => lost configuration.path fault.message
    | .ok place =>
      match fs.directory? place with
      | none => notSearchable (absolutePath place)
      | some entries =>
        let found := configuration.search.ofDirectory (absolutePath place) entries
        ended (Session.run false found.todos input)

end Program

end Backlog
